import ClassChart.Files.Sources
import ClassChart.Syntax.Declarations
import ClassChart.Text.Newline
import ClassChart.Value

/-! Source files and what they give. A text needs a reader for its language, which is the one of its
file's extension unless another one is named. A file that cannot be opened gives a unit with an error
and no declarations. The grammar of the language is not part of this: the parser of a text is given,
and it may give any tree. -/
namespace ClassChart.Source

/-- The syntax trees of source texts. Texts that the grammar does not allow have trees too. -/
abbrev Parser := String → Syntax.Node

inductive ReaderError where
  | noReader (file : String)
  | unknownLanguage (language : String)
  deriving DecidableEq, Repr

def readers : List String := ["csharp"]

def ReaderError.message : ReaderError → String
  | noReader file => "No parser for file: " ++ file
  | unknownLanguage language =>
    "Unsupported language: " ++ language ++ ". Supported: " ++ (Value.list (readers.map .str)).quoted

def reader (language : String) : Except ReaderError String :=
  if readers.contains language then .ok language else .error (.unknownLanguage language)

def unitOf (parse : Parser) (text file : String) : SourceUnit :=
  Syntax.sourceUnit (Text.encode text) file (parse text)

def unitOfText (parse : Parser) (text file : String) (language : Option String) :
    Except ReaderError SourceUnit :=
  match language.or (Files.languageOf? file) with
  | none | some "" => .error (.noReader file)
  | some language => (reader language).map fun _ => unitOf parse text file

/- The text of a file. What may be the start of a byte order mark, and ends there, is no text. -/
def clean (content : List UInt8) : String :=
  if content.isPrefixOf [0xEF, 0xBB] then ""
  else String.ofList (Text.lineFeeds (Text.dropMark (Text.decode content).toList))

def unreadable (file message : String) : SourceUnit := ⟨file, [], [⟨file, 0, message, .error⟩]⟩

/-- The declarations of a file, reported under its path from the project's root. -/
def unitAt (parse : Parser) (disk : Files.Disk) (root path : String) :
    Except ReaderError SourceUnit :=
  match Files.languageOf? path with
  | none => .error (.noReader path)
  | some _ =>
    let shown := Files.reported root path
    match disk.content path with
    | .error cause => .ok (unreadable shown (cause.message path))
    | .ok content => .ok (unitOf parse (clean content) shown)

/-- A file that no reader takes counts as a fault of that file. -/
def reading (parse : Parser) (disk : Files.Disk) (root path : String) :
    Except ReadFault SourceUnit :=
  (unitAt parse disk root path).mapError fun e => ⟨path, 0, e.message, .error⟩

end ClassChart.Source
