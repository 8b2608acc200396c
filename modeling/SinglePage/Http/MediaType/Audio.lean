/-
Subtypes of audio, with the extensions of their files.
-/
namespace SinglePage.MediaType

/-- The subtypes of `audio`. -/
def sounds : List (String × List String) :=
  [("aac", ["aac", "adts"]), ("ac3", ["ac3"]), ("aiff", ["aif", "aifc", "aiff", "cdda"]),
    ("annodex", ["axa"]), ("audible", ["aa"]), ("basic", ["au", "snd"]), ("flac", ["flac"]),
    ("m4a", ["m4a"]), ("m4b", ["m4b"]), ("m4p", ["m4p"]), ("mid", ["mid", "midi", "rmi"]),
    ("midi", ["kar"]), ("mp4", ["mp4a"]), ("mpeg", ["m2a", "m3a", "mp2", "mp2a", "mp3", "mpga"]),
    ("ogg", ["oga", "ogg", "opus", "spx"]), ("s3m", ["s3m"]), ("scpls", ["pls"]), ("silk", ["sil"]),
    ("vnd.audible.aax", ["aax"]), ("vnd.dece.audio", ["uva", "uvva"]),
    ("vnd.digital-winds", ["eol"]), ("vnd.dlna.adts", ["adt"]), ("vnd.dra", ["dra"]),
    ("vnd.dts", ["dts"]), ("vnd.dts.hd", ["dtshd"]), ("vnd.lucent.voice", ["lvp"]),
    ("vnd.ms-playready.media.pya", ["pya"]), ("vnd.nuera.ecelp4800", ["ecelp4800"]),
    ("vnd.nuera.ecelp7470", ["ecelp7470"]), ("vnd.nuera.ecelp9600", ["ecelp9600"]),
    ("vnd.rip", ["rip"]), ("wav", ["wav", "wave"]), ("webm", ["weba"]), ("x-caf", ["caf"]),
    ("x-gsm", ["gsm"]), ("x-m4r", ["m4r"]), ("x-matroska", ["mka"]), ("x-mpegurl", ["m3u", "m3u8"]),
    ("x-ms-wax", ["wax"]), ("x-ms-wma", ["wma"]), ("x-pn-realaudio", ["ra", "ram"]),
    ("x-pn-realaudio-plugin", ["rpm"]), ("x-sd2", ["sd2"]), ("x-smd", ["smd", "smx", "smz"]),
    ("xm", ["xm"])]

end SinglePage.MediaType
