/-
Subtypes of applications that belong to a vendor, with the extensions of their files.
-/
namespace SinglePage.MediaType

/-- The subtypes of `application` that belong to a vendor. -/
def vendors : List (String × List String) :=
  [("vnd.3gpp.pic-bw-large", ["plb"]), ("vnd.3gpp.pic-bw-small", ["psb"]),
    ("vnd.3gpp.pic-bw-var", ["pvb"]), ("vnd.3gpp2.tcap", ["tcap"]),
    ("vnd.3m.post-it-notes", ["pwn"]), ("vnd.accpac.simply.aso", ["aso"]),
    ("vnd.accpac.simply.imp", ["imp"]), ("vnd.acucobol", ["acu"]),
    ("vnd.acucorp", ["acutc", "atc"]), ("vnd.adobe.air-application-installer-package+zip", ["air"]),
    ("vnd.adobe.formscentral.fcdt", ["fcdt"]), ("vnd.adobe.fxp", ["fxp", "fxpl"]),
    ("vnd.adobe.xdp+xml", ["xdp"]), ("vnd.adobe.xfdf", ["xfdf"]), ("vnd.ahead.space", ["ahead"]),
    ("vnd.airzip.filesecure.azf", ["azf"]), ("vnd.airzip.filesecure.azs", ["azs"]),
    ("vnd.amazon.ebook", ["azw"]), ("vnd.americandynamics.acc", ["acc"]),
    ("vnd.amiga.ami", ["ami"]), ("vnd.android.package-archive", ["apk"]),
    ("vnd.anser-web-certificate-issue-initiation", ["cii"]),
    ("vnd.anser-web-funds-transfer-initiation", ["fti"]), ("vnd.antix.game-component", ["atx"]),
    ("vnd.apache.parquet", ["parquet"]), ("vnd.apple.installer+xml", ["mpkg"]),
    ("vnd.apple.pkpass", ["pkpass"]), ("vnd.aristanetworks.swi", ["swi"]),
    ("vnd.astraea-software.iota", ["iota"]), ("vnd.audiograph", ["aep"]),
    ("vnd.blueice.multipass", ["mpm"]), ("vnd.bmi", ["bmi"]), ("vnd.businessobjects", ["rep"]),
    ("vnd.chemdraw+xml", ["cdxml"]), ("vnd.chipnuts.karaoke-mmd", ["mmd"]),
    ("vnd.cinderella", ["cdy"]), ("vnd.citationstyles.style+xml", ["csl"]),
    ("vnd.claymore", ["cla"]), ("vnd.cloanto.rp9", ["rp9"]),
    ("vnd.clonk.c4group", ["c4d", "c4f", "c4g", "c4p", "c4u"]),
    ("vnd.cluetrust.cartomobile-config", ["c11amc"]),
    ("vnd.cluetrust.cartomobile-config-pkg", ["c11amz"]), ("vnd.commonspace", ["csp"]),
    ("vnd.contact.cmsg", ["cdbcmsg"]), ("vnd.cosmocaller", ["cmc"]),
    ("vnd.crick.clicker", ["clkx"]), ("vnd.crick.clicker.keyboard", ["clkk"]),
    ("vnd.crick.clicker.palette", ["clkp"]), ("vnd.crick.clicker.template", ["clkt"]),
    ("vnd.crick.clicker.wordbank", ["clkw"]), ("vnd.criticaltools.wbs+xml", ["wbs"]),
    ("vnd.cups-ppd", ["ppd"]), ("vnd.curl.car", ["car"]), ("vnd.curl.pcurl", ["pcurl"]),
    ("vnd.dart", ["dart"]), ("vnd.data-vision.rdz", ["rdz"]),
    ("vnd.dece.data", ["uvd", "uvf", "uvvd", "uvvf"]), ("vnd.dece.ttml+xml", ["uvt", "uvvt"]),
    ("vnd.dece.unspecified", ["uvvx", "uvx"]), ("vnd.dece.zip", ["uvvz", "uvz"]),
    ("vnd.denovo.fcselayout-link", ["fe_launch"]), ("vnd.dna", ["dna"]), ("vnd.dolby.mlp", ["mlp"]),
    ("vnd.dpgraph", ["dpg"]), ("vnd.dreamfactory", ["dfac"]), ("vnd.ds-keypoint", ["kpxx"]),
    ("vnd.dvb.ait", ["ait"]), ("vnd.dynageo", ["geo"]), ("vnd.ecowin.chart", ["mag"]),
    ("vnd.enliven", ["nml"]), ("vnd.epson.esf", ["esf"]), ("vnd.epson.msf", ["msf"]),
    ("vnd.epson.quickanime", ["qam"]), ("vnd.epson.salt", ["slt"]), ("vnd.epson.ssf", ["ssf"]),
    ("vnd.eszigno3+xml", ["es3", "et3"]), ("vnd.ezpix-album", ["ez2"]),
    ("vnd.ezpix-package", ["ez3"]), ("vnd.fdf", ["fdf"]), ("vnd.fdsn.mseed", ["mseed"]),
    ("vnd.fdsn.seed", ["dataless", "seed"]), ("vnd.flographit", ["gph"]),
    ("vnd.fluxtime.clip", ["ftc"]), ("vnd.framemaker", ["book", "fm", "frame", "maker"]),
    ("vnd.frogans.fnc", ["fnc"]), ("vnd.frogans.ltf", ["ltf"]), ("vnd.fsc.weblaunch", ["fsc"]),
    ("vnd.fujitsu.oasys", ["oas"]), ("vnd.fujitsu.oasys2", ["oa2"]),
    ("vnd.fujitsu.oasys3", ["oa3"]), ("vnd.fujitsu.oasysgp", ["fg5"]),
    ("vnd.fujitsu.oasysprs", ["bh2"]), ("vnd.fujixerox.ddd", ["ddd"]),
    ("vnd.fujixerox.docuworks", ["xdw"]), ("vnd.fujixerox.docuworks.binder", ["xbd"]),
    ("vnd.fuzzysheet", ["fzs"]), ("vnd.genomatix.tuxedo", ["txd"]), ("vnd.geogebra.file", ["ggb"]),
    ("vnd.geogebra.tool", ["ggt"]), ("vnd.geometry-explorer", ["gex", "gre"]),
    ("vnd.geonext", ["gxt"]), ("vnd.geoplan", ["g2w"]), ("vnd.geospace", ["g3w"]),
    ("vnd.gmx", ["gmx"]), ("vnd.google-apps.document", ["gdoc"]),
    ("vnd.google-apps.presentation", ["gslides"]), ("vnd.google-apps.spreadsheet", ["gsheet"]),
    ("vnd.google-earth.kml+xml", ["kml"]), ("vnd.google-earth.kmz", ["kmz"]),
    ("vnd.grafeq", ["gqf", "gqs"]), ("vnd.groove-account", ["gac"]), ("vnd.groove-help", ["ghf"]),
    ("vnd.groove-identity-message", ["gim"]), ("vnd.groove-injector", ["grv"]),
    ("vnd.groove-tool-message", ["gtm"]), ("vnd.groove-tool-template", ["tpl"]),
    ("vnd.groove-vcard", ["vcg"]), ("vnd.hal+xml", ["hal"]),
    ("vnd.handheld-entertainment+xml", ["zmm"]), ("vnd.hbci", ["hbci"]),
    ("vnd.hhe.lesson-player", ["les"]), ("vnd.hp-hpgl", ["hpgl"]), ("vnd.hp-hpid", ["hpid"]),
    ("vnd.hp-hps", ["hps"]), ("vnd.hp-jlyt", ["jlt"]), ("vnd.hp-pcl", ["pcl"]),
    ("vnd.hp-pclxl", ["pclxl"]), ("vnd.hydrostatix.sof-data", ["sfd-hdstx"]),
    ("vnd.ibm.minipay", ["mpy"]), ("vnd.ibm.modcap", ["afp", "list3820", "listafp"]),
    ("vnd.ibm.rights-management", ["irm"]), ("vnd.ibm.secure-container", ["sc"]),
    ("vnd.iccprofile", ["icc", "icm"]), ("vnd.igloader", ["igl"]), ("vnd.immervision-ivp", ["ivp"]),
    ("vnd.immervision-ivu", ["ivu"]), ("vnd.insors.igm", ["igm"]),
    ("vnd.intercon.formnet", ["xpw", "xpx"]), ("vnd.intergeo", ["i2g"]), ("vnd.intu.qbo", ["qbo"]),
    ("vnd.intu.qfx", ["qfx"]), ("vnd.ipunplugged.rcprofile", ["rcprofile"]),
    ("vnd.irepository.package+xml", ["irp"]), ("vnd.is-xpr", ["xpr"]), ("vnd.isac.fcs", ["fcs"]),
    ("vnd.jam", ["jam"]), ("vnd.jcp.javame.midlet-rms", ["rms"]), ("vnd.jisp", ["jisp"]),
    ("vnd.joost.joda-archive", ["joda"]), ("vnd.kahootz", ["ktr", "ktz"]),
    ("vnd.kde.karbon", ["karbon"]), ("vnd.kde.kchart", ["chrt"]), ("vnd.kde.kformula", ["kfo"]),
    ("vnd.kde.kivio", ["flw"]), ("vnd.kde.kontour", ["kon"]),
    ("vnd.kde.kpresenter", ["kpr", "kpt"]), ("vnd.kde.kspread", ["ksp"]),
    ("vnd.kde.kword", ["kwd", "kwt"]), ("vnd.kenameaapp", ["htke"]), ("vnd.kidspiration", ["kia"]),
    ("vnd.kinar", ["kne", "knp"]), ("vnd.koan", ["skd", "skm", "skt"]),
    ("vnd.kodak-descriptor", ["sse"]), ("vnd.las.las+xml", ["lasxml"]),
    ("vnd.llamagraphics.life-balance.desktop", ["lbd"]),
    ("vnd.llamagraphics.life-balance.exchange+xml", ["lbe"]), ("vnd.lotus-1-2-3", ["123"]),
    ("vnd.lotus-approach", ["apr"]), ("vnd.lotus-freelance", ["pre"]), ("vnd.lotus-notes", ["nsf"]),
    ("vnd.lotus-organizer", ["org"]), ("vnd.lotus-screencam", ["scm"]),
    ("vnd.lotus-wordpro", ["lwp"]), ("vnd.macports.portpkg", ["portpkg"]), ("vnd.mcd", ["mcd"]),
    ("vnd.medcalcdata", ["mc1"]), ("vnd.mediastation.cdkey", ["cdkey"]), ("vnd.mfer", ["mwf"]),
    ("vnd.mfmp", ["mfm"]), ("vnd.micrografx.flo", ["flo"]), ("vnd.micrografx.igx", ["igx"]),
    ("vnd.mif", ["mif"]), ("vnd.mobius.daf", ["daf"]), ("vnd.mobius.dis", ["dis"]),
    ("vnd.mobius.mbk", ["mbk"]), ("vnd.mobius.mqy", ["mqy"]), ("vnd.mobius.msl", ["msl"]),
    ("vnd.mobius.plc", ["plc"]), ("vnd.mobius.txf", ["txf"]), ("vnd.mophun.application", ["mpn"]),
    ("vnd.mophun.certificate", ["mpc"]), ("vnd.mozilla.xul+xml", ["xul"]),
    ("vnd.ms-artgalry", ["cil"]),
    ("vnd.ms-excel", ["slk", "xla", "xlc", "xld", "xlk", "xll", "xlm", "xls", "xlt", "xlw"]),
    ("vnd.ms-excel.addin.macroEnabled.12", ["xlam"]),
    ("vnd.ms-excel.sheet.binary.macroEnabled.12", ["xlsb"]),
    ("vnd.ms-excel.sheet.macroEnabled.12", ["xlsm"]),
    ("vnd.ms-excel.template.macroEnabled.12", ["xltm"]), ("vnd.ms-fontobject", ["eot"]),
    ("vnd.ms-htmlhelp", ["chm"]), ("vnd.ms-ims", ["ims"]), ("vnd.ms-lrm", ["lrm"]),
    ("vnd.ms-mediapackage", ["mpf"]), ("vnd.ms-office.calx", ["calx"]),
    ("vnd.ms-officetheme", ["thmx"]), ("vnd.ms-outlook", ["msg", "pst"]),
    ("vnd.ms-pki.certstore", ["sst"]), ("vnd.ms-pki.pko", ["pko"]), ("vnd.ms-pki.seccat", ["cat"]),
    ("vnd.ms-pki.stl", ["stl"]), ("vnd.ms-powerpoint", ["pot", "ppa", "pps", "ppt", "pwz"]),
    ("vnd.ms-powerpoint.addin.macroEnabled.12", ["ppam"]),
    ("vnd.ms-powerpoint.presentation.macroEnabled.12", ["pptm"]),
    ("vnd.ms-powerpoint.slide.macroEnabled.12", ["sldm"]),
    ("vnd.ms-powerpoint.slideshow.macroEnabled.12", ["ppsm"]),
    ("vnd.ms-powerpoint.template.macroEnabled.12", ["potm"]), ("vnd.ms-project", ["mpp", "mpt"]),
    ("vnd.ms-visio.viewer", ["vdx"]), ("vnd.ms-word.document.macroEnabled.12", ["docm"]),
    ("vnd.ms-word.template.macroEnabled.12", ["dotm"]),
    ("vnd.ms-works", ["wcm", "wdb", "wks", "wps"]), ("vnd.ms-wpl", ["wpl"]),
    ("vnd.ms-xpsdocument", ["xps"]), ("vnd.mseq", ["mseq"]), ("vnd.musician", ["mus"]),
    ("vnd.muvee.style", ["msty"]), ("vnd.mynfc", ["taglet"]), ("vnd.neurolanguage.nlu", ["nlu"]),
    ("vnd.nitf", ["nitf", "ntf"]), ("vnd.noblenet-directory", ["nnd"]),
    ("vnd.noblenet-sealer", ["nns"]), ("vnd.noblenet-web", ["nnw"]),
    ("vnd.nokia.n-gage.data", ["ngdat"]), ("vnd.nokia.n-gage.symbian.install", ["n-gage"]),
    ("vnd.nokia.radio-preset", ["rpst"]), ("vnd.nokia.radio-presets", ["rpss"]),
    ("vnd.novadigm.edm", ["edm"]), ("vnd.novadigm.edx", ["edx"]), ("vnd.novadigm.ext", ["ext"]),
    ("vnd.oasis.opendocument.chart", ["odc"]), ("vnd.oasis.opendocument.chart-template", ["otc"]),
    ("vnd.oasis.opendocument.database", ["odb"]), ("vnd.oasis.opendocument.formula", ["odf"]),
    ("vnd.oasis.opendocument.formula-template", ["odft"]),
    ("vnd.oasis.opendocument.graphics", ["odg"]),
    ("vnd.oasis.opendocument.graphics-template", ["otg"]),
    ("vnd.oasis.opendocument.image", ["odi"]), ("vnd.oasis.opendocument.image-template", ["oti"]),
    ("vnd.oasis.opendocument.presentation", ["odp"]),
    ("vnd.oasis.opendocument.presentation-template", ["otp"]),
    ("vnd.oasis.opendocument.spreadsheet", ["ods"]),
    ("vnd.oasis.opendocument.spreadsheet-template", ["ots"]),
    ("vnd.oasis.opendocument.text", ["odt"]), ("vnd.oasis.opendocument.text-master", ["odm"]),
    ("vnd.oasis.opendocument.text-template", ["ott"]), ("vnd.oasis.opendocument.text-web", ["oth"]),
    ("vnd.olpc-sugar", ["xo"]), ("vnd.oma.dd2+xml", ["dd2"]),
    ("vnd.openofficeorg.extension", ["oxt"]),
    ("vnd.openxmlformats-officedocument.presentationml.presentation", ["pptx"]),
    ("vnd.openxmlformats-officedocument.presentationml.slide", ["sldx"]),
    ("vnd.openxmlformats-officedocument.presentationml.slideshow", ["ppsx"]),
    ("vnd.openxmlformats-officedocument.presentationml.template", ["potx"]),
    ("vnd.openxmlformats-officedocument.spreadsheetml.sheet", ["xlsx"]),
    ("vnd.openxmlformats-officedocument.spreadsheetml.template", ["xltx"]),
    ("vnd.openxmlformats-officedocument.wordprocessingml.document", ["docx"]),
    ("vnd.openxmlformats-officedocument.wordprocessingml.template", ["dotx"]),
    ("vnd.osgeo.mapguide.package", ["mgp"]), ("vnd.osgi.dp", ["dp"]),
    ("vnd.osgi.subsystem", ["esa"]), ("vnd.palm", ["oprc", "pdb", "pqa"]),
    ("vnd.pawaafile", ["paw"]), ("vnd.pg.format", ["str"]), ("vnd.pg.osasli", ["ei6"]),
    ("vnd.picsel", ["efif"]), ("vnd.pmi.widget", ["wg"]), ("vnd.pocketlearn", ["plf"]),
    ("vnd.powerbuilder6", ["pbd"]), ("vnd.previewsystems.box", ["box"]),
    ("vnd.proteus.magazine", ["mgz"]), ("vnd.publishare-delta-tree", ["qps"]),
    ("vnd.pvi.ptid1", ["ptid"]), ("vnd.quark.quarkxpress", ["qwd", "qwt", "qxb", "qxl", "qxt"]),
    ("vnd.realvnc.bed", ["bed"]), ("vnd.recordare.musicxml", ["mxl"]),
    ("vnd.recordare.musicxml+xml", ["musicxml"]), ("vnd.rig.cryptonote", ["cryptonote"]),
    ("vnd.rn-realmedia", ["rm"]), ("vnd.rn-realmedia-vbr", ["rmvb"]),
    ("vnd.rn-rn_music_package", ["rmp"]), ("vnd.route66.link66+xml", ["link66"]),
    ("vnd.sailingtracker.track", ["st"]), ("vnd.seemail", ["see"]), ("vnd.sema", ["sema"]),
    ("vnd.semd", ["semd"]), ("vnd.semf", ["semf"]), ("vnd.shana.informed.formdata", ["ifm"]),
    ("vnd.shana.informed.formtemplate", ["itp"]), ("vnd.shana.informed.interchange", ["iif"]),
    ("vnd.shana.informed.package", ["ipk"]), ("vnd.simtech-mindmapper", ["twd", "twds"]),
    ("vnd.smart.teacher", ["teacher"]), ("vnd.solent.sdkm+xml", ["sdkd", "sdkm"]),
    ("vnd.spotfire.dxp", ["dxp"]), ("vnd.spotfire.sfs", ["sfs"]),
    ("vnd.stardivision.calc", ["sdc"]), ("vnd.stardivision.draw", ["sda"]),
    ("vnd.stardivision.impress", ["sdd"]), ("vnd.stardivision.math", ["smf"]),
    ("vnd.stardivision.writer", ["sdw", "vor"]), ("vnd.stardivision.writer-global", ["sgl"]),
    ("vnd.stepmania.package", ["smzip"]), ("vnd.stepmania.stepchart", ["sm"]),
    ("vnd.sun.wadl+xml", ["wadl"]), ("vnd.sun.xml.calc", ["sxc"]),
    ("vnd.sun.xml.calc.template", ["stc"]), ("vnd.sun.xml.draw", ["sxd"]),
    ("vnd.sun.xml.draw.template", ["std"]), ("vnd.sun.xml.impress", ["sxi"]),
    ("vnd.sun.xml.impress.template", ["sti"]), ("vnd.sun.xml.math", ["sxm"]),
    ("vnd.sun.xml.writer", ["sxw"]), ("vnd.sun.xml.writer.global", ["sxg"]),
    ("vnd.sun.xml.writer.template", ["stw"]), ("vnd.sus-calendar", ["sus", "susp"]),
    ("vnd.svd", ["svd"]), ("vnd.symbian.install", ["sis", "sisx"]), ("vnd.syncml+xml", ["xsm"]),
    ("vnd.syncml.dm+wbxml", ["bdm"]), ("vnd.syncml.dm+xml", ["xdm"]),
    ("vnd.tao.intent-module-archive", ["tao"]), ("vnd.tcpdump.pcap", ["cap", "dmp", "pcap"]),
    ("vnd.tmobile-livetv", ["tmo"]), ("vnd.trid.tpt", ["tpt"]), ("vnd.triscape.mxs", ["mxs"]),
    ("vnd.trueapp", ["tra"]), ("vnd.ufdl", ["ufd", "ufdl"]), ("vnd.uiq.theme", ["utz"]),
    ("vnd.umajin", ["umj"]), ("vnd.unity", ["unityweb"]), ("vnd.uoml+xml", ["uoml"]),
    ("vnd.vcx", ["vcx"]), ("vnd.visio", ["vsd", "vss", "vst", "vsw", "vsx", "vtx"]),
    ("vnd.visionary", ["vis"]), ("vnd.vsf", ["vsf"]), ("vnd.wap.wbxml", ["wbxml"]),
    ("vnd.wap.wmlc", ["wmlc"]), ("vnd.wap.wmlscriptc", ["wmlsc"]), ("vnd.webturbo", ["wtb"]),
    ("vnd.wolfram.player", ["nbp"]), ("vnd.wordperfect", ["wpd"]), ("vnd.wqd", ["wqd"]),
    ("vnd.wt.stf", ["stf"]), ("vnd.xara", ["xar"]), ("vnd.xfdl", ["xfdl"]),
    ("vnd.yamaha.hv-dic", ["hvd"]), ("vnd.yamaha.hv-script", ["hvs"]),
    ("vnd.yamaha.hv-voice", ["hvp"]), ("vnd.yamaha.openscoreformat", ["osf"]),
    ("vnd.yamaha.openscoreformat.osfpvg+xml", ["osfpvg"]), ("vnd.yamaha.smaf-audio", ["saf"]),
    ("vnd.yamaha.smaf-phrase", ["spf"]), ("vnd.yellowriver-custom-menu", ["cmp"]),
    ("vnd.zul", ["zir", "zirz"]), ("vnd.zzazz.deck+xml", ["zaz"])]

end SinglePage.MediaType
