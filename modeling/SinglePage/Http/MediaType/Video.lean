/-
Subtypes of video, with the extensions of their files.
-/
namespace SinglePage.MediaType

/-- The subtypes of `video`. -/
def videos : List (String × List String) :=
  [("3gpp", ["3gp", "3gpp"]), ("3gpp2", ["3g2", "3gp2"]), ("annodex", ["axv"]), ("divx", ["divx"]),
    ("h261", ["h261"]), ("h263", ["h263"]), ("h264", ["h264"]), ("jpeg", ["jpgv"]),
    ("jpm", ["jpgm"]), ("mj2", ["mj2", "mjp2"]), ("mp4", ["mp4", "mp4v", "mpg4"]),
    ("mpeg", ["m1v", "m2v", "mod", "mp2v", "mpa", "mpe", "mpeg", "mpg", "mpv2", "vbk"]),
    ("ogg", ["ogv"]), ("quicktime", ["mov", "mqv", "qt"]), ("vnd.dece.hd", ["uvh", "uvvh"]),
    ("vnd.dece.mobile", ["uvm", "uvvm"]), ("vnd.dece.pd", ["uvp", "uvvp"]),
    ("vnd.dece.sd", ["uvs", "uvvs"]), ("vnd.dece.video", ["uvv", "uvvv"]),
    ("vnd.dlna.mpeg-tts", ["m2t", "m2ts", "mts", "ts", "tts"]), ("vnd.dvb.file", ["dvb"]),
    ("vnd.fvt", ["fvt"]), ("vnd.mpegurl", ["m4u", "mxu"]), ("vnd.ms-playready.media.pyv", ["pyv"]),
    ("vnd.uvvu.mp4", ["uvu", "uvvu"]), ("vnd.vivo", ["viv"]), ("webm", ["webm"]),
    ("x-dv", ["dif", "dv"]), ("x-f4v", ["f4v"]), ("x-fli", ["fli"]), ("x-flv", ["flv"]),
    ("x-ivf", ["ivf"]), ("x-la-asf", ["lsf", "lsx"]), ("x-m4v", ["m4v"]),
    ("x-matroska", ["mk3d", "mks", "mkv"]), ("x-mng", ["mng"]),
    ("x-ms-asf", ["asf", "asr", "asx", "nsc"]), ("x-ms-vob", ["vob"]), ("x-ms-wm", ["wm"]),
    ("x-ms-wmp", ["wmp"]), ("x-ms-wmv", ["wmv"]), ("x-ms-wmx", ["wmx"]), ("x-ms-wvx", ["wvx"]),
    ("x-msvideo", ["avi"]), ("x-sgi-movie", ["movie"]), ("x-smv", ["smv"])]

end SinglePage.MediaType
