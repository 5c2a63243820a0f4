import TokenTables.Generator

/-!
The command line of a generator. Three options take a value: `-i`/`--infile` and `-o`/`--outfile`, which
are required, and `--config`. A value is attached (`-iV`, `-i=V`, `--infile=V`) or is the next argument.
An option whose value may still come is held, and is settled only when the next option, a flag or the
end comes; an unknown argument is reported before the held option is looked at.
-/

namespace TokenTables

namespace CommandLine

inductive Key where
  | infile
  | outfile
  | config
deriving DecidableEq, Repr

namespace Key

def long : Key → Text
  | infile => "infile"
  | outfile => "outfile"
  | config => "config"

def short? : Key → Option Char
  | infile => some 'i'
  | outfile => some 'o'
  | config => none

def all : List Key := [infile, outfile, config]

def ofLong? (name : Text) : Option Key := all.find? (·.long = name)

def ofShort? (c : Char) : Option Key := all.find? (·.short? = some c)

def shown : Key → Text
  | infile => "--infile <PATH>"
  | outfile => "--outfile <PATH>"
  | config => "--config <JSON>"

def required : Key → Bool
  | config => false
  | _ => true

end Key

inductive Flag where
  | help
  | version
deriving DecidableEq, Repr

namespace Flag

def long : Flag → Text
  | help => "help"
  | version => "version"

def short : Flag → Char
  | help => 'h'
  | version => 'V'

def all : List Flag := [help, version]

def ofLong? (name : Text) : Option Flag := all.find? (·.long = name)

def ofShort? (c : Char) : Option Flag := all.find? (·.short = c)

end Flag

inductive Word where
  | endOfOptions
  | attached (key : Key) (value : Text)
  | separate (key : Key)
  | flag (flag : Flag) (isLong : Bool)
  | flagWithValue (flag : Flag) (value : Text)
  | unknown (shown : Text)
  | plain
deriving DecidableEq, Repr

/-- The text before the first `=`, and what follows it if there is one. -/
def splitEquals : Text → Text × Option Text
  | [] => ([], none)
  | c :: t =>
    if c = '=' then ([], some t)
    else
      let (name, value) := splitEquals t
      (c :: name, value)

theorem splitEquals_some {t name value : Text} (h : splitEquals t = (name, some value)) :
    t = name ++ '=' :: value := by
  induction t generalizing name with
  | nil => cases h
  | cons c t ih =>
    rw [splitEquals] at h
    split at h
    · rename_i eq
      simp_all
    · simp only [Prod.mk.injEq] at h
      obtain ⟨rfl, found⟩ := h
      rw [List.cons_append, ← ih (Prod.ext rfl found)]

def longWord (body : Text) : Word :=
  let (name, value?) := splitEquals body
  match Key.ofLong? name, Flag.ofLong? name, value? with
  | some key, _, some value => .attached key value
  | some key, _, none => .separate key
  | none, some flag, none => .flag flag true
  | none, some flag, some value => .flagWithValue flag value
  | none, none, _ => .unknown ("--" ++ name)

def shortWord (c : Char) (rest : Text) : Word :=
  match Key.ofShort? c, Flag.ofShort? c with
  | some key, _ =>
    match rest with
    | [] => .separate key
    | '=' :: value => .attached key value
    | value => .attached key value
  | none, some flag => .flag flag false
  | none, none => .unknown ['-', c]

/-- A lone `-` is a plain argument. -/
def classify : Text → Word
  | ['-', '-'] => .endOfOptions
  | '-' :: '-' :: body => longWord body
  | '-' :: c :: rest => shortWord c rest
  | _ => .plain

structure Given where
  infile : Option Text := none
  outfile : Option Text := none
  config : Option Text := none
deriving DecidableEq, Repr

/-- Why no run follows: something is asked for instead, or the arguments are refused. -/
inductive Stop where
  | help (isLong : Bool)
  | version
  | missing (keys : List Key)
  | valueMissing (key : Key)
  | unexpected (arg : Text)
  | repeated (key : Key)
  | flagTakesNoValue (flag : Flag) (value : Text)
deriving DecidableEq, Repr

namespace Given

def get? (g : Given) : Key → Option Text
  | .infile => g.infile
  | .outfile => g.outfile
  | .config => g.config

def set (g : Given) (key : Key) (value : Text) : Except Stop Given :=
  if (g.get? key).isSome then .error (.repeated key)
  else
    match key with
    | .infile => .ok { g with infile := some value }
    | .outfile => .ok { g with outfile := some value }
    | .config => .ok { g with config := some value }

end Given

/-- An option waiting to be settled, with the value that has come for it. -/
structure Held where
  key : Key
  value : Option Text
deriving DecidableEq, Repr

def settle (g : Given) : Option Held → Except Stop Given
  | none => .ok g
  | some ⟨key, none⟩ => .error (.valueMissing key)
  | some ⟨key, some value⟩ => g.set key value

def flagStop : Flag → (isLong : Bool) → Stop
  | .help, isLong => .help isLong
  | .version, _ => .version

def readFrom (g : Given) (held : Option Held) : List Text → Except Stop Given
  | [] => settle g held
  | arg :: rest =>
    match classify arg with
    | .endOfOptions =>
      match rest with
      | [] => settle g held
      | next :: _ => .error (.unexpected next)
    | .attached key value => do
      let g ← settle g held
      let g ← g.set key value
      readFrom g none rest
    | .separate key => do
      let g ← settle g held
      readFrom g (some ⟨key, none⟩) rest
    | .flag flag isLong => do
      let _ ← settle g held
      .error (flagStop flag isLong)
    | .flagWithValue flag value => .error (.flagTakesNoValue flag value)
    | .unknown shown => .error (.unexpected shown)
    | .plain =>
      match held with
      | some ⟨key, none⟩ => readFrom g (some ⟨key, some arg⟩) rest
      | _ => .error (.unexpected arg)

structure Request where
  infile : Text
  outfile : Text
  config : Option Text
deriving DecidableEq, Repr

def Given.request (g : Given) : Except Stop Request :=
  match g.infile, g.outfile with
  | some infile, some outfile => .ok ⟨infile, outfile, g.config⟩
  | _, _ => .error (.missing (Key.all.filter fun key => key.required && (g.get? key).isNone))

def read (args : List Text) : Except Stop Request :=
  readFrom {} none args >>= Given.request

end CommandLine

end TokenTables
