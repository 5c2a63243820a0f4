import TokenTables.Journal.Basic
import TokenTables.Pattern.OfText

/-!
Which records are shown. A filter is a list of directives between commas: a level for all records, the
beginning of a source's name, or both as `name=level`. Of the directives that fit a source the one with
the longest name decides, and of two with one name the later. What follows a slash is a pattern that
has to occur in the message. Without any directive only errors are shown.
-/

namespace TokenTables.Journal

/-- Shows the records of sources that begin with `name`, up to the rank `most`. -/
structure Directive where
  name : Option Text
  most : Nat
deriving DecidableEq, Repr

structure Filter where
  directives : List Directive
  pattern : Option Pattern
deriving DecidableEq, Repr

namespace Filter

def rankOf? (word : Text) : Option Nat :=
  let word := word.map Char.toUpper
  if word = ("OFF" : Text) then some 0
  else (Level.all.find? fun level => level.name = word).map Level.rank

def highestRank : Nat := 5

def readDirective (spec : Text) : Except Text Directive :=
  match Text.pieces '=' spec with
  | [word] =>
    match rankOf? word with
    | some rank => .ok ⟨none, rank⟩
    | none => .ok ⟨some word, highestRank⟩
  | [name, level] =>
    match Text.trim level, rankOf? (Text.trim level) with
    | [], _ => .ok ⟨some name, highestRank⟩
    | _, some rank => .ok ⟨some name, rank⟩
    | level, none => .error level
  | _ => .error spec

def addDirective (d : Directive) : List Directive → List Directive
  | [] => [d]
  | e :: rest => if e.name = d.name then d :: rest else e :: addDirective d rest

/-- The directives of a list, and warnings about those that are passed over. -/
def readDirectives (specs : List Text) : List Directive × List Text :=
  specs.foldl (fun acc spec =>
    let spec := Text.trim spec
    if spec.isEmpty then acc
    else
      match readDirective spec with
      | .ok d => (addDirective d acc.1, acc.2)
      | .error wrong =>
        (acc.1, acc.2 ++ ["warning: invalid logging spec '" ++ wrong ++ "', ignoring it\n"]))
    ([], [])

def orErrors : List Directive → List Directive
  | [] => [⟨none, Level.error.rank⟩]
  | ds => ds

/-- The pattern that a text writes. A text that writes none is passed over, with a warning. -/
def readPattern (text : Text) : Option Pattern × List Text :=
  match Pattern.ofText text with
  | .ok p => (some p, [])
  | .error refusal =>
    (none, ["warning: invalid regex filter - " ++ refusal.message text ++ ", ignoring it\n"])

def parse (spec : Text) : Filter × List Text :=
  match Text.pieces '/' spec with
  | [specs] =>
    let (ds, warnings) := readDirectives (Text.pieces ',' specs)
    (⟨orErrors ds, none⟩, warnings)
  | [specs, text] =>
    let (ds, warnings) := readDirectives (Text.pieces ',' specs)
    let (pattern, more) := readPattern text
    (⟨orErrors ds, pattern⟩, warnings ++ more)
  | _ =>
    (⟨orErrors [], none⟩,
      ["warning: invalid logging spec '" ++ spec ++ "' (too many '/'s), ignoring it\n"])

def usual : Text := "warn"

def orUsual (filter : Option Text) : Filter × List Text := parse (filter.getD usual)

def Directive.fits (d : Directive) (source : Text) : Bool :=
  match d.name with
  | none => true
  | some name => Text.beginsWith name source

def Directive.weight (d : Directive) : Nat := (d.name.getD []).length

def deciding (f : Filter) (source : Text) : Option Directive :=
  (f.directives.filter (Directive.fits · source)).foldl (fun best d =>
    match best with
    | none => some d
    | some b => if Directive.weight b ≤ Directive.weight d then some d else some b) none

def admits (f : Filter) (r : Record) : Bool :=
  ((f.deciding r.source).any fun d => r.level.rank ≤ d.most) &&
    f.pattern.all fun p => p.occursIn r.message

end Filter

end TokenTables.Journal
