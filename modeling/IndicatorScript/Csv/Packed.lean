import IndicatorScript.Text.Quoted

/-!
# Packed tables

A file whose name says that it is packed is unpacked before it is read. A file of text is not packed, so under such a
name there is nothing to read in it, or there is something wrong with it.
-/

namespace IndicatorScript.Csv

inductive Packing where
  | gzip | bzip2 | zip | xz | zstandard | tar
  deriving DecidableEq, Repr

def packings : List (String × Packing) :=
  [ (".tar", .tar), (".tar.gz", .tar), (".tar.bz2", .tar), (".tar.xz", .tar), (".gz", .gzip), (".bz2", .bzip2),
    (".zip", .zip), (".xz", .xz), (".zst", .zstandard) ]

def Packing.ofName? (name : String) : Option Packing :=
  (packings.find? fun (ending, _) => name.toLower.endsWith ending).map (·.2)

inductive PackedError where
  /-- The first octets are not those of a packed file. -/
  | notGzip (start : List UInt8)
  | notBzip2
  | notXz
  | notZip
  /-- Unpacking ran into the end of the file. -/
  | cutOff
  | notTar (isEmpty isShort : Bool)
  /-- There is nothing to unpack files of this kind with. -/
  | noUnpacker
  deriving Repr

def quotedOctets (octets : List UInt8) : String :=
  let chars := octets.map fun octet => Char.ofNat octet.toNat
  let quote := Text.quoteFor chars
  let escape (c : Char) : List Char :=
    if c.toNat < 0x7f then Text.escape quote c else '\\' :: 'x' :: Text.hexDigits 2 c.toNat
  String.ofList ('b' :: quote :: chars.flatMap escape ++ [quote])

def tarReason (isEmpty isShort : Bool) : String :=
  let tried (method reason : String) : String := "\n- method " ++ method ++ ": ReadError('" ++ reason ++ "')"
  "file could not be opened successfully:" ++
    tried "gz" (if isEmpty then "empty file" else "not a gzip file") ++
    tried "bz2" "not a bzip2 file" ++
    tried "xz" "not an lzma file" ++
    tried "tar" (if isEmpty then "empty file" else if isShort then "truncated header" else "invalid header")

def PackedError.message : PackedError → String
  | .notGzip start => "Not a gzipped file (" ++ quotedOctets start ++ ")"
  | .notBzip2 => "Invalid data stream"
  | .notXz => "Input format not supported by decoder"
  | .notZip => "File is not a zip file"
  | .cutOff => "Compressed file ended before the end-of-stream marker was reached"
  | .notTar isEmpty isShort => tarReason isEmpty isShort
  | .noUnpacker => "`Import zstandard` failed.  Use pip or conda to install the zstandard package."

def tarHeader : Nat := 512

/-- The text that a file of text unpacks to. Only nothing at all can be taken for a packed file. -/
def unpacked (packing : Packing) (text : String) : Except PackedError String :=
  match packing with
  | .gzip => if text = "" then .ok "" else .error (.notGzip (text.toUTF8.toList.take 2))
  | .bzip2 => if text.isPrefixOf "BZh" then .error .cutOff else .error .notBzip2
  | .xz => if text = "" then .error .cutOff else .error .notXz
  | .zip => .error .notZip
  | .tar => .error (.notTar (text = "") (text.utf8ByteSize < tarHeader))
  | .zstandard => .error .noUnpacker

end IndicatorScript.Csv
