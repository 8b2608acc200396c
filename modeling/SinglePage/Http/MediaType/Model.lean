/-
Subtypes of models and of the smaller kinds of media, with the extensions of their files.
-/
namespace SinglePage.MediaType

/-- The subtypes of `model`. -/
def models : List (String × List String) :=
  [("gltf+json", ["gltf"]), ("gltf-binary", ["glb"]), ("iges", ["iges", "igs"]),
    ("mesh", ["mesh", "msh", "silo"]), ("vnd.collada+xml", ["dae"]), ("vnd.gdl", ["gdl"]),
    ("vnd.gtw", ["gtw"]), ("vnd.vtu", ["vtu"]), ("vrml", ["vrml"]),
    ("x3d+binary", ["x3db", "x3dbz"]), ("x3d+vrml", ["x3dv", "x3dvz"]),
    ("x3d+xml", ["x3d", "x3dz"])]

/-- The subtypes of `message`. -/
def messages : List (String × List String) :=
  [("disposition-notification", ["disposition-notification"]), ("global", ["u8msg"]),
    ("global-delivery-status", ["u8dsn"]), ("global-disposition-notification", ["u8mdn"]),
    ("global-headers", ["u8hdr"]), ("rfc822", ["eml", "mht", "mhtml", "mime", "nws"])]

/-- The subtypes of `font`. -/
def fonts : List (String × List String) :=
  [("collection", ["ttc"]), ("ttf", ["ttf"]), ("woff2", ["woff2"])]

/-- The subtypes of `chemical`. -/
def chemicals : List (String × List String) :=
  [("x-cdx", ["cdx"]), ("x-cif", ["cif"]), ("x-cmdf", ["cmdf"]), ("x-cml", ["cml"]),
    ("x-csml", ["csml"]), ("x-xyz", ["xyz"])]

/-- The subtypes of `drawing`. -/
def drawings : List (String × List String) :=
  [("x-dwf", ["dwf"])]

/-- The subtypes of `x-world`. -/
def worlds : List (String × List String) :=
  [("x-vrml", ["flr", "wrl", "wrz", "xaf", "xof"])]

/-- The subtypes of `x-conference`. -/
def conferences : List (String × List String) :=
  [("x-cooltalk", ["ice"])]

end SinglePage.MediaType
