import Typings.Template.Basic
import Typings.Template.Token

/-!
# Slots

What stands between double braces: the name of a value or a constant, and perhaps conversions of it
behind vertical bars. Operators, brackets and literals are understood as far as to tell whether they
are where they may be, but what they come to is not known here.
-/

namespace Typings.Template

open Text

/-- What a slot shows before any conversion. -/
inductive Operand where
  | name (t : Text)
  | constant (v : Value)
  | other

/-- What a slot says. -/
structure Slot where
  operand : Operand
  /-- The names of the conversions, the first one first. -/
  filters : List Text := []

/-- Why a slot is not read: it is at fault, or it says what is not understood here. -/
inductive Obstacle where
  | fault (fault : Fault)
  | notUnderstood

/-- A place where a slot is read: the next token, and the place after it in a text of the given
size. -/
structure Reading where
  size : Nat
  current : Token
  after : Place

/-- A step of reading a slot. -/
abbrev Reader := StateT Reading (Except Obstacle)

namespace Reader

/-- Refuses the slot. -/
def refuse {α : Type} (fault : Fault) : Reader α := throw (.fault fault)

/-- The next token. -/
def peek : Reader Token := do return (← get).current

/-- Goes on to the token after the next one. -/
def advance : Reader Unit := do
  let s ← get
  match s.after.next s.size with
  | .error fault => refuse fault
  | .ok (token, place) => set { s with current := token, after := place }

/-- Refuses the slot because something else is needed here. -/
def need {α : Type} (needed : Text) : Reader α := do
  match ← peek with
  | .textEnd => refuse (.unfinished needed)
  | token => refuse (.misplaced needed token.called)

/-- Goes past a symbol that is needed. -/
def pass (symbol : Text) : Reader Unit := do
  if (← peek) = .symbol symbol then advance else need symbol

/-- Whether the next token is one of some symbols. -/
def isAt (symbols : List String) : Reader Bool := do
  match ← peek with
  | .symbol symbol => return symbols.any fun s => s.toList = symbol
  | _ => return false

/-- Whether the next token is a word. -/
def isAtWord (word : String) : Reader Bool := do return (← peek) = .name word.toList

/-- Goes past the two words that deny membership, if they come next. -/
def passNotIn : Reader Bool := do
  let s ← get
  if ← isAtWord "not" then
    advance
    if ← isAtWord "in" then
      advance
      return true
  set s
  return false

/-- The operators between operands that belong to a level; the higher the level, the more tightly
they bind. The level of the word for negation has none. -/
def takesOperator (level : Nat) : Reader Bool := do
  let isHere ← match level with
    | 0 => isAtWord "or"
    | 1 => isAtWord "and"
    | 3 => (· || ·) <$> isAt ["==", "!=", ">", ">=", "<", "<="] <*> isAtWord "in"
    | 4 => isAt ["+", "-"]
    | 5 => isAt ["~"]
    | 6 => isAt ["*", "/", "//", "%"]
    | 7 => isAt ["**"]
    | _ => pure false
  if isHere then
    advance
    return true
  else if level = 3 then passNotIn
  else return false

end Reader

/-- The level of the word for negation, which stands before what it negates. -/
def negationLevel : Nat := 2

/-- The level of the operands without operators between them. -/
def operandLevel : Nat := 8

/-- The names that stand for a constant. -/
def constants : List (Text × Value) :=
  [("true".toList, .flag true), ("True".toList, .flag true), ("false".toList, .flag false),
   ("False".toList, .flag false), ("none".toList, .absent), ("None".toList, .absent)]

/-- What a name shows. -/
def Operand.ofName (t : Text) : Operand :=
  match constants.lookup t with
  | some v => .constant v
  | none => .name t

open Reader

/-- The names of conversions at the end of an operand. -/
def readFilters : Nat → Reader (List Text)
  | 0 => throw .notUnderstood
  | fuel + 1 => do
    if ← isAt ["("] then throw .notUnderstood
    if ← isAtWord "is" then throw .notUnderstood
    if ← isAt ["|"] then
      advance
      match ← peek with
      | .name filter =>
        advance
        if ← isAt [".", "("] then throw .notUnderstood
        return filter :: (← readFilters fuel)
      | _ => need "name".toList
    else return []

mutual

/-- An operand and those after it that are bound to it at a level or above it. -/
def readLevel : Nat → Nat → Reader Slot
  | 0, _ => throw .notUnderstood
  | fuel + 1, level => do
    if level = operandLevel then readOperand fuel true
    else
      if level = negationLevel then
        if ← isAtWord "not" then
          advance
          let _ ← readLevel fuel level
          return { operand := .other }
      let first ← readLevel fuel (level + 1)
      readMore fuel level first

/-- What comes after an operand at a level. -/
def readMore : Nat → Nat → Slot → Reader Slot
  | 0, _, _ => throw .notUnderstood
  | fuel + 1, level, first => do
    if ← takesOperator level then
      let _ ← readLevel fuel (level + 1)
      readMore fuel level { operand := .other }
    else return first

/-- An operand with its sign and, if wanted, its conversions. -/
def readOperand : Nat → Bool → Reader Slot
  | 0, _ => throw .notUnderstood
  | fuel + 1, withFilters => do
    let slot : Slot ←
      if ← isAt ["-", "+"] then
        advance
        let _ ← readOperand fuel false
        pure { operand := .other }
      else readPrimary fuel
    if ← isAt [".", "[", "("] then throw .notUnderstood
    if withFilters then
      let filters ← readFilters fuel
      return { slot with filters := slot.filters ++ filters }
    else return slot

/-- A name, a literal, or what is in brackets. -/
def readPrimary : Nat → Reader Slot
  | 0 => throw .notUnderstood
  | fuel + 1 => do
    match ← peek with
    | .name t =>
      advance
      return { operand := .ofName t }
    | .integer | .fractional =>
      advance
      return { operand := .other }
    | .text =>
      readTexts fuel
      return { operand := .other }
    | .symbol ['('] =>
      advance
      let slot ← readTuple fuel true
      pass [')']
      return slot
    | .symbol ['['] =>
      advance
      readItems fuel false
      pass [']']
      return { operand := .other }
    | .symbol ['\x7b'] =>
      advance
      readPairs fuel false
      pass ['\x7d']
      return { operand := .other }
    | token => refuse (.unexpected token.called)

/-- Texts one after the other. -/
def readTexts : Nat → Reader Unit
  | 0 => throw .notUnderstood
  | fuel + 1 => do
    if (← peek) = .text then
      advance
      readTexts fuel

/-- One expression, or several with commas between them. There may be none in brackets. -/
def readTuple : Nat → Bool → Reader Slot
  | 0, _ => throw .notUnderstood
  | fuel + 1, inBrackets => do
    if ← endsTuple then
      if inBrackets then return { operand := .other } else refuse .emptySlot
    let first ← readExpression fuel
    if ← isAt [","] then
      readTupleRest fuel
      return { operand := .other }
    else return first

/-- The rest of a tuple from a comma on. -/
def readTupleRest : Nat → Reader Unit
  | 0 => throw .notUnderstood
  | fuel + 1 => do
    if ← isAt [","] then
      advance
      unless ← endsTuple do
        let _ ← readExpression fuel
        readTupleRest fuel

/-- The items of a list. -/
def readItems : Nat → Bool → Reader Unit
  | 0, _ => throw .notUnderstood
  | fuel + 1, hasItems => do
    unless ← isAt ["]"] do
      if hasItems then pass [',']
      unless ← isAt ["]"] do
        let _ ← readExpression fuel
        readItems fuel true

/-- The pairs of a dictionary. -/
def readPairs : Nat → Bool → Reader Unit
  | 0, _ => throw .notUnderstood
  | fuel + 1, hasPairs => do
    unless ← isAt ["\x7d"] do
      if hasPairs then pass [',']
      unless ← isAt ["\x7d"] do
        let _ ← readExpression fuel
        pass [':']
        let _ ← readExpression fuel
        readPairs fuel true

/-- One expression. -/
def readExpression : Nat → Reader Slot
  | 0 => throw .notUnderstood
  | fuel + 1 => do
    let slot ← readLevel fuel 0
    if ← isAtWord "if" then throw .notUnderstood
    return slot

/-- Whether a tuple ends here. -/
def endsTuple : Reader Bool := do
  match ← peek with
  | .slotEnd => return true
  | .symbol [')'] => return true
  | _ => return false

end

/-- Reads a slot after its opening, and gives the text after its end. -/
def Slot.read (size : Nat) (t : Text) : Except Obstacle (Slot × Text) := do
  let (token, place) ← (Place.next size { rest := t }).mapError .fault
  let fuel := 32 * (t.length + 1)
  let (slot, s) ← (readTuple fuel false).run { size, current := token, after := place }
  match s.current with
  | .slotEnd => return (slot, s.after.rest)
  | .textEnd => throw (.fault (.unfinished endOfSlot))
  | token => throw (.fault (.misplaced endOfSlot token.called))

end Typings.Template
