import Pushdown.Settings
import Pushdown.Settings.Entry

/-! # Settings documents

A document gives settings as TOML entries, an array of labels also as an array of tables:
a header in double brackets for every element, and under it the label as the one key of the
element, or a header in single brackets for the label. All labels under headers of one name
are given for that name, in the order of the headers.
-/

namespace Pushdown

namespace Settings

/-- One statement of a document. -/
inductive Line where
  | entry (name : String) (given : Entry)
  /-- The header of a further element of an array of tables. -/
  | element (name : String)
  /-- The header of a table in the last element under a name. -/
  | label (name label : String)
  deriving DecidableEq

namespace Line

/-- The header of an element, after its opening brackets. -/
def element? (text : List Char) : Option (Line × List Char) := do
  let (name, rest) ← Entry.name? (Entry.skipBlanks text)
  match Entry.skipBlanks rest with
  | ']' :: ']' :: rest => some (.element name, rest)
  | _ => none

/-- The header of a table in an element, after its opening bracket. -/
def label? (text : List Char) : Option (Line × List Char) := do
  let (name, rest) ← Entry.name? (Entry.skipBlanks text)
  match Entry.skipBlanks rest with
  | '.' :: rest =>
      let (written, rest) ← Entry.name? (Entry.skipBlanks rest)
      match Entry.skipBlanks rest with
      | ']' :: rest => some (.label name written, rest)
      | _ => none
  | _ => none

/-- A name and what is given for it. -/
def entry? (text : List Char) : Option (Line × List Char) := do
  let (name, rest) ← Entry.name? text
  let (given, rest) ← Entry.value? (← Entry.equals? rest)
  return (.entry name given, rest)

/-- A statement. -/
def read? : List Char → Option (Line × List Char)
  | '[' :: '[' :: rest => element? rest
  | '[' :: rest => label? rest
  | text => entry? text

/-- The statements of a document, each at the end of its line, under a bound on their
number. -/
def all? : Nat → List Char → Option (List Line)
  | 0, _ => none
  | bound + 1, text => do
      match ← Entry.skipBreaks text with
      | [] => some []
      | text =>
          let (first, rest) ← read? text
          if Entry.atLineEnd rest then
            let others ← all? bound rest
            return first :: others
          else none

end Line

/-- Where the next entry of a document belongs. -/
inductive Place where
  | document
  /-- The latest element of an array of tables. -/
  | element
  /-- A table in an element; nothing is given there. -/
  | label
  deriving DecidableEq

/-- What the statements so far have given. -/
structure Draft where
  entries : List (String × Entry) := []
  /-- The elements of arrays of tables with their labels, the latest first. -/
  elements : List (String × Option String) := []
  place : Place := .document

namespace Draft

/-- The elements with a label for the latest under a name, unless that has one. -/
def labelled? (name label : String) :
    List (String × Option String) → Option (List (String × Option String))
  | [] => none
  | (other, given) :: rest =>
      if other = name then
        match given with
        | none => some ((other, some label) :: rest)
        | some _ => none
      else (labelled? name label rest).map ((other, given) :: ·)

/-- The draft after one more statement. -/
def add? (draft : Draft) : Line → Option Draft
  | .entry name entry =>
      match draft.place, draft.elements with
      | .document, _ => some { draft with entries := draft.entries ++ [(name, entry)] }
      | .element, (array, none) :: rest =>
          if entry.isEmpty then some { draft with elements := (array, some name) :: rest }
          else none
      | _, _ => none
  | .element name =>
      some { draft with elements := (name, none) :: draft.elements, place := .element }
  | .label name label =>
      (labelled? name label draft.elements).map fun elements =>
        { draft with elements := elements, place := .label }

/-- The labels of the elements under a name; every element has one. -/
def labels? (draft : Draft) (name : String) : Option (List String) :=
  (draft.elements.reverse.filter fun element => element.1 == name).mapM Prod.snd

/-- All that is given, the arrays of tables as arrays of labels. -/
def given? (draft : Draft) : Option (List (String × Entry)) := do
  let arrays ← (draft.elements.map Prod.fst).eraseDups.mapM fun name => do
    return (name, Entry.labels (← draft.labels? name))
  return draft.entries ++ arrays

/-- What the statements of a document give. -/
def ofLines? (lines : List Line) : Option (List (String × Entry)) := do
  (← lines.foldlM add? {}).given?

end Draft

/-- Everything that labels name, unless one of them names nothing. -/
def named? {α : Type} (all : List α) (label : α → String) (labels : List String) :
    Option (List α) :=
  labels.mapM fun written => all.find? fun value => label value == written

/-- Settings with one entry of a document put in. -/
def put? (settings : Settings) : String × Entry → Option Settings
  | ("pre_optimizers", .labels labels) =>
      (named? Simplification.all Simplification.label labels).map fun simplifications =>
        { settings with simplifications := simplifications }
  | ("merge_strategies", .labels labels) =>
      (named? PushRule.all PushRule.label labels).map fun rules =>
        { settings with pushRules := rules }
  | ("count_fast_path", .flag value) => some { settings with countShortcut := value }
  | _ => none

/-- The settings of a document; no name is given twice. -/
def ofEntries? (entries : List (String × Entry)) : Option Settings :=
  if (entries.map Prod.fst).Nodup then entries.foldlM put? {} else none

/-- The settings that a document gives. A byte order mark in front is passed over. -/
def ofDocument (document : String) : Except Refusal Settings :=
  let text :=
    match document.toList with
    | '\ufeff' :: rest => rest
    | text => text
  match (Line.all? (text.length + 1) text >>= Draft.ofLines?) >>= ofEntries? with
  | some settings => settings.validate
  | none => .error .malformed

end Settings

end Pushdown
