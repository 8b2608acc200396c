/-
Subtypes of image, with the extensions of their files.
-/
namespace SinglePage.MediaType

/-- The subtypes of `image`. -/
def images : List (String × List String) :=
  [("apng", ["apng"]), ("avif", ["avif"]), ("avif-sequence", ["avifs"]), ("bmp", ["bmp", "dib"]),
    ("cgm", ["cgm"]), ("cis-cod", ["cod"]), ("g3fax", ["g3"]), ("gif", ["gif"]), ("heic", ["heic"]),
    ("heic-sequence", ["heics"]), ("heif", ["heif"]), ("heif-sequence", ["heifs"]),
    ("ief", ["ief"]), ("jp2", ["jp2", "jpg2"]), ("jpeg", ["jfif", "jpe", "jpeg", "jpg"]),
    ("jpm", ["jpm"]), ("jpx", ["jpf", "jpx"]), ("jxl", ["jxl"]), ("ktx", ["ktx"]),
    ("pict", ["pct", "pic", "pict"]), ("png", ["png", "pnz"]), ("prs.btif", ["btif"]),
    ("sgi", ["sgi"]), ("svg+xml", ["svg", "svgz"]), ("tiff", ["tif", "tiff"]),
    ("vnd.dece.graphic", ["uvg", "uvi", "uvvg", "uvvi"]), ("vnd.djvu", ["djv", "djvu"]),
    ("vnd.fastbidsheet", ["fbs"]), ("vnd.fpx", ["fpx"]), ("vnd.fst", ["fst"]),
    ("vnd.fujixerox.edmics-mmr", ["mmr"]), ("vnd.fujixerox.edmics-rlc", ["rlc"]),
    ("vnd.ms-modi", ["mdi"]), ("vnd.ms-photo", ["wdp"]), ("vnd.net-fpx", ["npx"]),
    ("vnd.radiance", ["hdr"]), ("vnd.rn-realflash", ["rf"]), ("vnd.wap.wbmp", ["wbmp"]),
    ("vnd.xiff", ["xif"]), ("webp", ["webp"]), ("x-3ds", ["3ds"]), ("x-adobe-dng", ["dng"]),
    ("x-canon-cr2", ["cr2"]), ("x-canon-cr3", ["cr3"]), ("x-canon-crw", ["crw"]),
    ("x-cmu-raster", ["ras"]), ("x-cmx", ["cmx"]),
    ("x-freehand", ["fh", "fh4", "fh5", "fh7", "fhc"]), ("x-fuji-raf", ["raf"]),
    ("x-icon", ["ico"]), ("x-jg", ["art"]), ("x-jng", ["jng"]), ("x-kodak-k25", ["k25"]),
    ("x-kodak-kdc", ["kdc"]), ("x-macpaint", ["mac", "pnt", "pntg"]), ("x-minolta-mrw", ["mrw"]),
    ("x-mrsid-image", ["sid"]), ("x-nikon-nef", ["nef"]), ("x-nikon-nrw", ["nrw"]),
    ("x-olympus-orf", ["orf"]), ("x-panasonic-rw", ["raw"]), ("x-panasonic-rw2", ["rw2", "rwl"]),
    ("x-pentax-pef", ["pef"]), ("x-portable-anymap", ["pnm"]), ("x-portable-bitmap", ["pbm"]),
    ("x-portable-graymap", ["pgm"]), ("x-portable-pixmap", ["ppm"]),
    ("x-quicktime", ["qti", "qtif"]), ("x-rgb", ["rgb"]), ("x-sigma-x3f", ["x3f"]),
    ("x-sony-arw", ["arw"]), ("x-sony-sr2", ["sr2"]), ("x-tga", ["tga"]), ("x-xbitmap", ["xbm"]),
    ("x-xpixmap", ["xpm"]), ("x-xwindowdump", ["xwd"])]

end SinglePage.MediaType
