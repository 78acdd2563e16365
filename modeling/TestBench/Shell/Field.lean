/-! What the pieces of a word become when it is used. The text that replaces a piece is parted into
words at separators, unless the piece is quoted; so a word can become several, or none. A blank
among the separators may come several times and does not count at the start, any other one ends a
word each time. Main definition: `fields`, the words that marks form. -/
namespace TestBench.Shell

inductive Mark where
  | char (c : Char) (quoted : Bool)
  | spliced (c : Char)
  | place
  /-- A text that replaces a piece begins here; in one of whole words only gaps are separators. -/
  | splice (ofWords : Bool)
  | gap
  deriving DecidableEq, Repr

namespace Mark

def char? : Mark → Option Char
  | .char c _ | .spliced c => some c
  | .place | .splice _ | .gap => none

def isActive (m : Mark) (c : Char) : Bool :=
  m == .char c false || m == .spliced c

end Mark

def markText (marks : List Mark) : String :=
  String.ofList (marks.filterMap Mark.char?)

def marksOf (quoted : Bool) (text : String) : List Mark :=
  if quoted then text.toList.map (Mark.char · true)
  else .splice false :: text.toList.map .spliced

def usualSeparators : String := " \t\n"

structure Parting where
  complete : List (List Mark) := []
  current : List Mark := []
  /-- The last word was ended by a blank, which may be part of a longer separator. -/
  afterBlank : Bool := false
  /-- The text under way, and the one before it, are of whole words. -/
  ofWords : Bool := false
  afterWords : Bool := false
  /-- The number of words that may still be ended, if that is limited. -/
  room : Option Nat := none
  /-- The marks of the last word up to the separator behind it, the last one first, as long as
  nothing but that separator follows. -/
  cut : Option (List Mark) := none

namespace Parting

/-- A character that may be a separator, where words may still be ended. -/
def separate (p : Parting) (m : Mark) (isSeparator isBlank : Bool) : Parting :=
  if p.afterBlank then
    if isBlank then p
    else if isSeparator then { p with afterBlank := false }
    else { p with current := m :: p.current, afterBlank := false }
  else if isSeparator then
    let blank := isBlank && !p.ofWords && !p.afterWords
    if blank && p.current.isEmpty then p
    else
      match p.room with
      | some 1 =>
        { p with
          room := some 0, cut := some p.current, current := m :: p.current, afterBlank := blank }
      | room =>
        { p with
          complete := p.current.reverse :: p.complete, current := [], afterBlank := blank
          room := room.map (· - 1) }
  else { p with current := m :: p.current, afterBlank := false }

/-- A character that may be a separator, where no word may be ended any more. -/
def trail (p : Parting) (m : Mark) (isSeparator isBlank : Bool) : Parting :=
  let p := { p with current := m :: p.current }
  if isBlank then { p with cut := some (p.cut.getD (p.current.drop 1)) }
  else if isSeparator && p.afterBlank then { p with afterBlank := false }
  else { p with cut := none, afterBlank := false }

def step (separators : List Char) (p : Parting) (m : Mark) : Parting :=
  let next (isSeparator isBlank : Bool) : Parting :=
    if p.room = some 0 then p.trail m isSeparator isBlank
    else p.separate m isSeparator isBlank
  match m with
  | .splice ofWords => { p with ofWords, afterWords := p.ofWords, afterBlank := false }
  | .gap => next true true
  | .spliced c =>
    let isSeparator := separators.contains c && !p.ofWords
    next isSeparator (isSeparator && usualSeparators.contains c)
  | .char .. | .place => { p with current := m :: p.current }

def words (p : Parting) : List (List Mark) :=
  let last := p.cut.getD p.current
  (if p.ofWords || !last.isEmpty then last.reverse :: p.complete else p.complete).reverse

end Parting

/-- The words that marks form, at most `room` of them if that is limited. -/
def fields (separators : String) (room : Option Nat) (marks : List Mark) : List (List Mark) :=
  (marks.foldl (Parting.step separators.toList) { room }).words

end TestBench.Shell
