import ImplicitScene.Image.Png

/-!
# Picture files

The ending of a file name says how a picture is written.  Upper and lower case
are not told apart.  Some endings are known but nothing can be written for them.
Such a file is created and stays empty.
-/

namespace ImplicitScene

/-- How a picture is written. -/
inductive ImageFormat where
  /-- A header in text and the bytes of the pixels. -/
  | pam
  /-- A PNG file. -/
  | png
  deriving Repr, DecidableEq

/-- Why a picture cannot be written. -/
inductive ImageError where
  /-- The ending says nothing. -/
  | unknownFormat
  /-- Nothing can be written for the ending. -/
  | unsupportedFormat
  /-- A PNG file has at least one pixel. -/
  | empty
  deriving Repr, DecidableEq

/-- The wording of an error. -/
def ImageError.message : ImageError → String
  | unknownFormat => "the image format could not be determined"
  | unsupportedFormat => "the image format is not supported"
  | empty => "the image has no pixels"

/-- The last part of a path. -/
def fileName (path : String) : String :=
  ((path.splitOn "/").filter fun part => part != "" && part != ".").getLast?.getD ""

/-- The ending of a file name: what stands after the last point, unless that is its first character.
Two points alone are no file name. -/
def extension? (path : String) : Option String :=
  let name := (fileName path).toList
  let ending := (name.reverse.takeWhile (· != '.')).reverse
  if name = ['.', '.'] || name.length ≤ ending.length + 1 then none
  else some (String.ofList ending)

namespace ImageFormat

/-- The endings of files with a text header. -/
def pamExtensions : List String := ["pbm", "pam", "ppm", "pgm", "pnm"]

/-- The endings of PNG files. -/
def pngExtensions : List String := ["png", "apng"]

/-- The endings for which nothing can be written. -/
def unsupportedExtensions : List String :=
  ["avif", "jpg", "jpeg", "jfif", "gif", "webp", "tif", "tiff", "tga", "dds", "bmp", "ico", "hdr",
    "exr", "ff", "qoi"]

/-- The format of a file. -/
def ofPath (path : String) : Except ImageError ImageFormat :=
  match (extension? path).map String.toLower with
  | none => .error .unknownFormat
  | some ending =>
      if pamExtensions.contains ending then .ok .pam
      else if pngExtensions.contains ending then .ok .png
      else if unsupportedExtensions.contains ending then .error .unsupportedFormat
      else .error .unknownFormat

end ImageFormat

namespace Image

/-- The header of a file with a text header. -/
def pamHeader (image : Image) : String :=
  s!"P7\nWIDTH {image.width}\nHEIGHT {image.height}\nDEPTH 3\nMAXVAL 255\nTUPLTYPE RGB\nENDHDR\n"

/-- The bytes of a picture file. -/
def encode (image : Image) : ImageFormat → List UInt8
  | .pam => image.pamHeader.toUTF8.toList ++ image.bytes
  | .png => Png.encode image

/-- The format in which a picture can be written to a file. -/
def formatFor (image : Image) (path : String) : Except ImageError ImageFormat := do
  let format ← ImageFormat.ofPath path
  if format = .png && (image.width = 0 || image.height = 0) then .error .empty else .ok format

end Image

end ImplicitScene
