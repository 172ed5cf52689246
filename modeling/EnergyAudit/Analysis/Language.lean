import EnergyAudit.Python.Extraction

/-!
# Languages

The languages whose sources can be analyzed, and the analysis of a source text.

## Main definitions

* `Language` — a language with its name, the endings of its files and its analysis.
* `Language.find?` — the language with a name or an ending.
* `SourceUnit` — a source text with its language and the name of its file.
* `SourceUnit.records` — the records of its functions.
-/

namespace EnergyAudit

/-- A language whose sources can be analyzed. -/
structure Language where
  name : String
  /-- The endings of its files, without dots. -/
  extensions : List String
  /-- The records of the functions of a source text. -/
  recordsOf : String → Except AnalysisError (List FunctionRecord)

namespace Language

/-- The records of the functions of a Python text. -/
def pythonRecords (text : String) : Except AnalysisError (List FunctionRecord) :=
  (Python.parse text).map Python.records

/-- The Python language. -/
def python : Language where
  name := "python"
  extensions := ["py", "pyw"]
  recordsOf := pythonRecords

/-- All languages. -/
def all : List Language := [python]

/-- Whether files with an ending are in the language. -/
def handles (l : Language) (extension : String) : Bool := l.extensions.contains extension

/-- The language with a name or an ending; dots before it do not count. -/
def find? (key : String) : Option Language :=
  let key : String := .ofList (key.toList.dropWhile (· == '.'))
  all.find? fun l => l.name == key || l.handles key

end Language

/-- A source text with its language and the name of its file. -/
structure SourceUnit where
  text : String
  language : String
  filename : String
deriving BEq, DecidableEq, Repr, Inhabited

/-- The name of a file that has none. -/
def defaultFilename : String := "main.py"

/-- The number of bytes of a source that are accepted unless more are asked for. -/
def defaultSizeLimit : Nat := 524288

namespace SourceUnit

/-- The number of bytes of the text. -/
def size (u : SourceUnit) : Nat := u.text.utf8ByteSize

/-- The records of the functions of a source, which may have so many bytes. -/
def records (u : SourceUnit) (sizeLimit : Nat) : Except AnalysisError (List FunctionRecord) :=
  if sizeLimit < u.size then .error (.tooLarge u.size sizeLimit)
  else match Language.find? u.language with
    | none => .error (.unknownLanguage u.language)
    | some language => language.recordsOf u.text

end SourceUnit

end EnergyAudit
