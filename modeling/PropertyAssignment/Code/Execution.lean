import PropertyAssignment.Code.Stmt
import PropertyAssignment.Text.LetterCase

/-!
# What generated code does

A small meaning for generated code, enough to say what an assignment does to its target. Memory
holds sequences, maps and objects, each under an address, so two variables may share a container.
An object has properties, read and written by calls of the forms `getX` and `setX`, and adders
that append to a property's sequence. Sequences and maps can be cleared and filled; a sequence with
set semantics drops elements it already has. Constructing a type from a container copies it.
-/

namespace PropertyAssignment

/-- A value at run time. Containers and objects are given by their addresses. -/
inductive RunValue where
  | null
  | bool (value : Bool)
  | text (value : String)
  | sequence (address : Nat)
  | map (address : Nat)
  | object (address : Nat)
deriving DecidableEq, Repr, Inhabited

/-- A sequence in memory. If it is `unique` it holds no element twice. -/
structure SequenceCell where
  unique : Bool
  items : List String
deriving DecidableEq, Repr

/-- An object in memory: the values of its properties, which are null unless set, and for each
adder method the property whose sequence it appends to. -/
structure ObjectCell where
  properties : String → RunValue
  adders : String → Option String

/-- The memory. The addresses below `next` are in use. -/
structure Memory where
  sequences : Nat → SequenceCell
  maps : Nat → String → Option String
  objects : Nat → ObjectCell
  next : Nat

/-- Why code cannot go on. -/
inductive RunError where
  | nullDereference
  | unknownVariable
  | unknownMethod
  | typeMismatch
deriving DecidableEq, Repr

/-- The values of variables and of opaque expressions. -/
structure Bindings where
  var : String → Option RunValue
  raw : String → Option RunValue

def updated {α β : Type} [DecidableEq α] (f : α → β) (key : α) (value : β) : α → β :=
  fun x => if x = key then value else f x

namespace SequenceCell

/-- The sequence with an element appended, unless it is unique and has the element. -/
def push (cell : SequenceCell) (item : String) : SequenceCell :=
  if cell.unique && cell.items.contains item then cell
  else { cell with items := cell.items ++ [item] }

def pushAll (cell : SequenceCell) (items : List String) : SequenceCell :=
  items.foldl push cell

end SequenceCell

/-- The map with all entries of another one; where both have a key, the other's value counts. -/
def overlay (entries other : String → Option String) : String → Option String :=
  fun key => (other key).or (entries key)

namespace Memory

def setSequence (memory : Memory) (address : Nat) (cell : SequenceCell) : Memory :=
  { memory with sequences := updated memory.sequences address cell }

def setMap (memory : Memory) (address : Nat) (entries : String → Option String) : Memory :=
  { memory with maps := updated memory.maps address entries }

def setProperty (memory : Memory) (address : Nat) (property : String) (value : RunValue) :
    Memory :=
  let cell := memory.objects address
  { memory with
    objects := updated memory.objects address
      { cell with properties := updated cell.properties property value } }

def newSequence (memory : Memory) (cell : SequenceCell) : RunValue × Memory :=
  (.sequence memory.next,
    { memory.setSequence memory.next cell with next := memory.next + 1 })

def newMap (memory : Memory) (entries : String → Option String) : RunValue × Memory :=
  (.map memory.next, { memory.setMap memory.next entries with next := memory.next + 1 })

def newObject (memory : Memory) : RunValue × Memory :=
  (.object memory.next,
    { memory with
      objects := updated memory.objects memory.next ⟨fun _ => .null, fun _ => none⟩
      next := memory.next + 1 })

end Memory

/-- Whether sequences constructed as the type have set semantics: its name ends in `Set`. -/
def JavaType.isSet (type : JavaType) : Bool :=
  "Set".toList.isSuffixOf type.name.simple.toList

/-- What follows a word in a text that begins with it. -/
def textAfter? : List Char → List Char → Option (List Char)
  | [], text => some text
  | c :: word, d :: text => if c = d then textAfter? word text else none
  | _ :: _, [] => none

/-- The property that an accessor of the form verb and name stands for. -/
def accessedProperty (verb method : String) : Option String :=
  match textAfter? verb.toList method.toList with
  | some (first :: rest) => some (String.ofList (Text.lowerCase first ++ rest))
  | _ => none

/-- A value constructed as the type from another one: a copy of a container, else the value. -/
def construct (type : JavaType) (value : RunValue) (memory : Memory) :
    Except RunError (RunValue × Memory) :=
  match value with
  | .null => .error .nullDereference
  | .sequence address =>
    .ok (memory.newSequence
      (SequenceCell.pushAll ⟨type.isSet, []⟩ (memory.sequences address).items))
  | .map address => .ok (memory.newMap (memory.maps address))
  | value => .ok (value, memory)

def constructEmpty (type : JavaType) (memory : Memory) : RunValue × Memory :=
  match type.container with
  | some .sequence => memory.newSequence ⟨type.isSet, []⟩
  | some .map => memory.newMap fun _ => none
  | none => memory.newObject

/-- Append those of the values that are texts to a sequence; other values take no elements. -/
def appendTexts (target : RunValue) (values : List RunValue) (memory : Memory) : Memory :=
  match target with
  | .sequence address =>
    let items := values.filterMap fun
      | .text item => some item
      | _ => none
    memory.setSequence address ((memory.sequences address).pushAll items)
  | _ => memory

/-- A call on an object: an adder, a read of a property, or a write of one. -/
def callObject (address : Nat) (method : String) (arguments : List RunValue) (memory : Memory) :
    Except RunError (RunValue × Memory) :=
  let cell := memory.objects address
  match cell.adders method with
  | some property =>
    if cell.properties property = .null then .error .nullDereference
    else .ok (.null, appendTexts (cell.properties property) arguments memory)
  | none =>
    match arguments, accessedProperty "get" method, accessedProperty "set" method with
    | [], some property, _ => .ok (cell.properties property, memory)
    | [value], _, some property => .ok (.null, memory.setProperty address property value)
    | _, _, _ => .error .unknownMethod

def callSequence (address : Nat) (method : String) (arguments : List RunValue) (memory : Memory) :
    Except RunError (RunValue × Memory) :=
  let cell := memory.sequences address
  match method, arguments with
  | "clear", [] => .ok (.null, memory.setSequence address { cell with items := [] })
  | "addAll", [.null] => .error .nullDereference
  | "addAll", [.sequence other] =>
    .ok (.null, memory.setSequence address (cell.pushAll (memory.sequences other).items))
  | _, _ => .error .unknownMethod

def callMap (address : Nat) (method : String) (arguments : List RunValue) (memory : Memory) :
    Except RunError (RunValue × Memory) :=
  match method, arguments with
  | "clear", [] => .ok (.null, memory.setMap address fun _ => none)
  | "putAll", [.null] => .error .nullDereference
  | "putAll", [.map other] =>
    .ok (.null, memory.setMap address (overlay (memory.maps address) (memory.maps other)))
  | _, _ => .error .unknownMethod

def callMethod (target : RunValue) (method : String) (arguments : List RunValue)
    (memory : Memory) : Except RunError (RunValue × Memory) :=
  match target with
  | .null => .error .nullDereference
  | .object address => callObject address method arguments memory
  | .sequence address => callSequence address method arguments memory
  | .map address => callMap address method arguments memory
  | .bool _ | .text _ => .error .unknownMethod

namespace Expr

mutual

/-- The value of an expression, and the memory after its evaluation. Receivers come before
arguments, and arguments from left to right. -/
def eval (bindings : Bindings) : Expr → Memory → Except RunError (RunValue × Memory)
  | .var name, memory =>
    match bindings.var name with
    | some value => .ok (value, memory)
    | none => .error .unknownVariable
  | .null, memory => .ok (.null, memory)
  | .raw text, memory =>
    match bindings.raw text with
    | some value => .ok (value, memory)
    | none => .error .unknownVariable
  | .invoke _ _, _ => .error .unknownMethod
  | .call receiver method arguments, memory => do
    let (target, memory) ← eval bindings receiver memory
    let (values, memory) ← evalAll bindings arguments memory
    callMethod target method values memory
  | .new type [], memory => .ok (constructEmpty type memory)
  | .new type (source :: _), memory => do
    let (value, memory) ← eval bindings source memory
    construct type value memory
  | .cast _ operand, memory => eval bindings operand memory
  | .notNull operand, memory => do
    let (value, memory) ← eval bindings operand memory
    return (.bool (value ≠ .null), memory)

def evalAll (bindings : Bindings) : List Expr → Memory → Except RunError (List RunValue × Memory)
  | [], memory => .ok ([], memory)
  | expr :: rest, memory => do
    let (value, memory) ← eval bindings expr memory
    let (values, memory) ← evalAll bindings rest memory
    return (value :: values, memory)

end

end Expr

/-- The state of a run: what names stand for, and the memory. -/
structure RunState where
  bindings : Bindings
  memory : Memory

def RunState.bind (state : RunState) (name : String) (value : RunValue) : RunState where
  bindings := ⟨updated state.bindings.var name (some value), state.bindings.raw⟩
  memory := state.memory

namespace Stmt

mutual

/-- The state after a statement. A loop goes over the elements that its sequence had at first. -/
def exec : Stmt → RunState → Except RunError RunState
  | .declare _ name init, state => do
    let (value, memory) ← init.eval state.bindings state.memory
    return RunState.bind { state with memory := memory } name value
  | .branch condition thenBody elseBody, state => do
    let (value, memory) ← condition.eval state.bindings state.memory
    match value with
    | .bool true => execAll thenBody { state with memory := memory }
    | .bool false => execAll elseBody { state with memory := memory }
    | _ => .error .typeMismatch
  | .forEach _ name iterable body, state => do
    let (value, memory) ← iterable.eval state.bindings state.memory
    match value with
    | .null => .error .nullDereference
    | .sequence address =>
      (memory.sequences address).items.foldlM
        (fun state item => execAll body (state.bind name (.text item)))
        { state with memory := memory }
    | _ => .error .typeMismatch
  | .expression expr, state => do
    let (_, memory) ← expr.eval state.bindings state.memory
    return { state with memory := memory }

def execAll : List Stmt → RunState → Except RunError RunState
  | [], state => .ok state
  | stmt :: rest, state => do execAll rest (← exec stmt state)

end

theorem execAll_singleton (stmt : Stmt) (state : RunState) :
    execAll [stmt] state = stmt.exec state := by
  rw [execAll]
  cases stmt.exec state <;> rfl

end Stmt

end PropertyAssignment
