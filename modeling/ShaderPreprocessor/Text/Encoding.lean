/-
Encodings of text files. Each is found by its name, turns bytes into text, and says what is wrong
with bytes that it cannot turn into text. Four of them are read here; what others make of bytes is
left to the codecs that are at hand.

* `normalName`, `Encoding.ofName?`: names, in which letters, digits and dots count and all else only
  keeps words apart;
* `Encoding.decode`: bytes to text;
* `decodeSigned`: UTF-8 whose first three bytes may be a signature, which is not text;
* `Codecs`, `Codecs.decoder`: what turns bytes into text by the name of an encoding, whether it is
  read here or by another codec;
* `EncodingError.message`, `DecodeError.message`: the words for a failure.
-/
import ShaderPreprocessor.Text.Quoted
import ShaderPreprocessor.Text.Utf8

namespace ShaderPreprocessor.Text

/-- The encodings. -/
inductive Encoding where
  /-- UTF-8; a signature is text like any other. -/
  | utf8
  /-- UTF-8 after an optional signature. -/
  | signedUtf8
  /-- The first 128 characters, one byte each. -/
  | ascii
  /-- The first 256 characters, one byte each. -/
  | latin1
  deriving DecidableEq, Repr

/-- Why bytes are not text in an encoding. -/
inductive DecodeError where
  /-- Where and how the bytes fail. -/
  | fault (encoding : Encoding) (place : DecodeFault)
  /-- Another codec says why. -/
  | reported (message : String)
  deriving DecidableEq, Repr

/-! ### Names -/

/-- Whether a character counts in the name of an encoding. -/
def isNameChar (c : Char) : Bool := c.isAlphanum || c = '.'

/-- The words of a name: what stands together of the characters that count. -/
def nameWords (name : List Char) : List (List Char) :=
  (name.splitOnP fun c => !isNameChar c).filter (· ≠ [])

/-- The name of an encoding as it is looked up: its words in small letters, with underscores between
them. -/
def normalName (name : String) : String :=
  String.ofList (['_'].intercalate ((nameWords name.toList).map (·.map Char.toLower)))

namespace Encoding

/-- All encodings. -/
def all : List Encoding := [utf8, signedUtf8, ascii, latin1]

/-- The name of an encoding. -/
def properName : Encoding → String
  | utf8 => "utf_8"
  | signedUtf8 => "utf_8_sig"
  | ascii => "ascii"
  | latin1 => "latin_1"

/-- The other names of an encoding. -/
def aliases : Encoding → List String
  | utf8 => ["cp65001", "u8", "utf", "utf8", "utf8_ucs2", "utf8_ucs4"]
  | signedUtf8 => []
  | ascii =>
    ["646", "ansi_x3.4_1968", "ansi_x3.4_1986", "ansi_x3_4_1968", "cp367", "csascii", "ibm367",
      "iso646_us", "iso_646.irv_1991", "iso_ir_6", "us", "us_ascii"]
  | latin1 =>
    ["8859", "cp819", "csisolatin1", "ibm819", "iso8859", "iso8859_1", "iso_8859_1",
      "iso_8859_1_1987", "iso_ir_100", "l1", "latin", "latin1"]

/-- Whether an encoding is looked up under a name. In its other names there may stand a dot for
each underscore. -/
def isNamed (encoding : Encoding) (name : String) : Bool :=
  name = encoding.properName || name ∈ encoding.aliases ||
    String.ofList (name.toList.map fun c => if c = '.' then '_' else c) ∈ encoding.aliases

/-- The encoding of a name. -/
def ofName? (name : String) : Option Encoding := all.find? (·.isNamed (normalName name))

/-- The name under which an encoding reports a failure. -/
def reportName : Encoding → String
  | utf8 => "utf-8"
  | signedUtf8 => "utf-8"
  | ascii => "ascii"
  | latin1 => "latin-1"

/-- The text of bytes below 128, one character each. -/
def decodeAscii (position : Nat) : List UInt8 → Except DecodeFault (List Char)
  | [] => .ok []
  | b :: data =>
    if b < 0x80 then (decodeAscii (position + 1) data).map (Char.ofNat b.toNat :: ·)
    else .error ⟨position, [b], .outOfRange⟩

/-- The signature that may start a text in UTF-8. -/
def signature : List UInt8 := [0xEF, 0xBB, 0xBF]

/-- The text of bytes in UTF-8 after an optional signature. A file that ends within the signature
is empty. -/
def decodeSigned (data : List UInt8) : Except DecodeFault (List Char) :=
  if data.isPrefixOf signature then .ok []
  else if signature.isPrefixOf data then decodeUtf8 (data.drop 3)
  else decodeUtf8 data

/-- The text of bytes in an encoding. -/
def decode (encoding : Encoding) (data : List UInt8) : Except DecodeError (List Char) :=
  let text : Except DecodeFault (List Char) := match encoding with
    | utf8 => decodeUtf8 data
    | signedUtf8 => decodeSigned data
    | ascii => decodeAscii 0 data
    | latin1 => .ok (data.map fun (b : UInt8) => Char.ofNat b.toNat)
  text.mapError (.fault encoding)

end Encoding

/-- What is said about a fault. -/
def Fault.message : Fault → String
  | invalidStart => "invalid start byte"
  | invalidContinuation => "invalid continuation byte"
  | unexpectedEnd => "unexpected end of data"
  | outOfRange => "ordinal not in range(128)"

/-- What is said about bytes that are not text: which they are, by their value if it is a single
one, and where. -/
def DecodeError.message : DecodeError → String
  | fault encoding ⟨position, bytes, kind⟩ =>
    let place := match bytes with
      | [b] => "byte 0x" ++ String.ofList (hex 2 b.toNat) ++ " in position " ++ toString position
      | bytes =>
        "bytes in position " ++ toString position ++ "-" ++
          toString (position + bytes.length - 1)
    "'" ++ encoding.reportName ++ "' codec can't decode " ++ place ++ ": " ++ kind.message
  | reported message => message

/-! ### Other codecs -/

/-- A codec that is none of these encodings. -/
inductive Codec where
  /-- It turns bytes into text, or says why it does not. -/
  | text (decode : List UInt8 → Except String (List Char))
  /-- It does not make text. -/
  | other

/-- The codecs at hand besides the encodings that are read here. Nothing is asked of them. -/
class Codecs where
  /-- The codec of a name as it is looked up. -/
  find? : String → Option Codec
  /-- The name of the encoding that the machine itself uses. -/
  locale : String

/-- No other codecs, on a machine that uses UTF-8. -/
instance : Codecs := ⟨fun _ => none, "utf-8"⟩

/-- Why a name leads to no encoding of text. -/
inductive EncodingError where
  /-- The name holds a NUL character. -/
  | nulInName
  /-- Nothing has the name. -/
  | unknown (name : String)
  /-- What has the name does not make text. -/
  | notText (name : String)
  deriving DecidableEq, Repr

/-- What is said about a name that leads to no encoding of text. -/
def EncodingError.message : EncodingError → String
  | nulInName => "embedded null character"
  | unknown name => "unknown encoding: " ++ name
  | notText name =>
    "'" ++ name ++ "' is not a text encoding; use codecs.open() to handle arbitrary codecs"

/-- Whether the name of an encoding holds a NUL character. -/
def holdsNul (name : String) : Bool := name.toList.contains '\x00'

/-- What turns bytes into text by the name of an encoding. The encodings that are read here go
before all other codecs. -/
def Codecs.decoder (codecs : Codecs) (name : String) :
    Except EncodingError (List UInt8 → Except DecodeError (List Char)) :=
  if holdsNul name then .error .nulInName
  else
    let used := if name = "locale" then codecs.locale else name
    match Encoding.ofName? used with
    | some encoding => .ok encoding.decode
    | none =>
      match codecs.find? (normalName used) with
      | some (.text decode) => .ok fun data => (decode data).mapError .reported
      | some .other => .error (.notText used)
      | none => .error (.unknown used)

end ShaderPreprocessor.Text
