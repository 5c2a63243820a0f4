import TokenTables.Pattern.Basic

/-!
How much memory a pattern takes when it is compiled to a machine over UTF-8 bytes, and the limit on it.
There are two machines. One reads forwards and records captures. The other reads backwards, records
none, and shares less between the byte sequences of a set. Every state takes 32 bytes, a branch 4 more
and a transition of a set 8 more.
-/

namespace TokenTables

namespace Pattern

def stateSize : Nat := 32

def branchSize : Nat := 4

def transitionSize : Nat := 8

/-- Where a run of code points has to be cut so that its bytes vary independently: around the surrogates,
behind the last code point of an encoded length, and at the ends of the blocks that one, two and three
last bytes tell apart. -/
def cut? (first last : Nat) : Option Nat :=
  if first < 0xE000 && 0xD7FF < last then some 0xD7FF
  else
    match [0x7F, 0x7FF, 0xFFFF].find? fun top => first ≤ top && top < last with
    | some top => some top
    | none =>
      if last ≤ 0x7F then none
      else [64, 4096, 262144].findSome? fun block =>
        if first / block = last / block then none
        else if first % block ≠ 0 then some ((first / block + 1) * block - 1)
        else if last % block ≠ block - 1 then some (last / block * block - 1)
        else none

/-- A run cut at most `cuts` times deep. What begins among the surrogates begins behind them. -/
def parts : (cuts : Nat) → (first last : Nat) → Runs
  | 0, first, last => [(first, last)]
  | cuts + 1, first, last =>
    match cut? first last with
    | none => [(first, last)]
    | some c =>
      let next := if c = 0xD7FF then 0xE000 else c + 1
      parts cuts first c ++ parts cuts next last

/-- Surrogates, lengths and two sides of three kinds of block. -/
def mostCuts : Nat := 10

def byteRanges (run : Nat × Nat) : List (UInt8 × UInt8) :=
  List.zip (String.utf8EncodeChar (Char.ofNat run.1)) (String.utf8EncodeChar (Char.ofNat run.2))

def sequences (runs : Runs) : List (List (UInt8 × UInt8)) :=
  runs.flatMap fun run => (parts mostCuts run.1 run.2).map byteRanges

def forwardSetSize (runs : Runs) : Nat :=
  let all := sequences runs
  let leads := (all.filterMap List.head?).eraseDups
  let ends := (all.flatMap fun s => (List.range (s.length - 1)).map fun n => s.drop (n + 1)).eraseDups
  2 * stateSize + transitionSize * leads.length + (stateSize + transitionSize) * ends.length

def backwardSetSize (runs : Runs) : Nat :=
  let all := sequences runs
  let beginnings := (all.flatMap fun s => (List.range s.length).map fun n => s.take (n + 1)).eraseDups
  2 * stateSize + branchSize * all.length + stateSize * beginnings.length

def setSize (forward : Bool) (runs : Runs) : Nat :=
  match runs.single? with
  | some n => stateSize * (Char.ofNat n).utf8Size
  | none =>
    if runs.isEmpty then stateSize
    else if runs.isWithin 0x7F then 2 * stateSize + transitionSize * runs.length
    else if forward then forwardSetSize runs
    else backwardSetSize runs

def leastLength : Pattern → Nat
  | empty | look _ => 0
  | oneOf _ => 1
  | concat a b => leastLength a + leastLength b
  | alternate a b => min (leastLength a) (leastLength b)
  | capture sub => leastLength sub
  | repetition least _ sub => least * leastLength sub

def isWidthless : Pattern → Bool
  | empty | look _ => true
  | oneOf _ => false
  | concat a b | alternate a b => isWidthless a && isWidthless b
  | capture sub | repetition _ _ sub => isWidthless sub

def repetitionSize (mayBeEmpty : Bool) (sub : Nat) : (least : Nat) → (most : Option Nat) → Nat
  | 0, none =>
    if mayBeEmpty then sub + 3 * stateSize + 4 * branchSize else sub + stateSize + 2 * branchSize
  | least + 1, none => (least + 1) * sub + stateSize + 2 * branchSize
  | 0, some 1 => sub + 2 * stateSize + 2 * branchSize
  | least, some most =>
    (if least = 0 then stateSize else least * sub) +
      if most ≤ least then 0
      else stateSize + (most - least) * (sub + stateSize + 2 * branchSize)

def size (forward : Bool) : (joined : Bool) → Pattern → Nat
  | joined, alternate a b =>
    (if joined then 0 else 2 * stateSize) + size forward true a + size forward true b
  | joined, empty | joined, look _ => branch joined + stateSize
  | joined, oneOf runs => branch joined + setSize forward runs
  | joined, concat a b => branch joined + size forward false a + size forward false b
  | joined, capture sub =>
    branch joined + (if forward then 2 * stateSize else 0) + size forward false sub
  | joined, repetition least most sub =>
    let times (n : Nat) : Nat := if sub.isWidthless then min n 1 else n
    branch joined + repetitionSize (sub.leastLength = 0) (size forward false sub) (times least)
      (most.map times)
where
  branch (joined : Bool) : Nat := if joined then branchSize else 0

/-- What every machine has besides: the search for where a match begins, the capture of the whole and
the final state. -/
def frameSize (forward : Bool) : Nat := if forward then 208 else 144

def mostSize : Nat := 10485760

def isTooLarge (p : Pattern) : Bool :=
  [true, false].any fun forward => mostSize < frameSize forward + p.size forward false

end Pattern

end TokenTables
