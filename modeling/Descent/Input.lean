/-! Read-only inputs. A parser never walks an input by itself: it asks for the
length and for single elements by their index. -/

namespace Descent

variable {ι κ : Type}

/-- A finite sequence of elements with random access. Nothing here ties the
length to the lookup; inputs for which they agree are `Lawful`. -/
structure Input (ι : Type) where
  length : Nat
  get? : Nat → Option ι

namespace Input

def isEmpty (input : Input ι) : Bool :=
  input.length == 0

/-- There is an element at exactly the indices below the length. -/
def Lawful (input : Input ι) : Prop :=
  ∀ index, (input.get? index).isSome ↔ index < input.length

def ofArray (items : Array ι) : Input ι where
  length := items.size
  get? index := items[index]?

def ofList (items : List ι) : Input ι :=
  ofArray items.toArray

def ofBytes (bytes : ByteArray) : Input UInt8 where
  length := bytes.size
  get? index := bytes[index]?

def ofText (text : String) : Input Char :=
  ofList text.toList

def ofUtf8 (text : String) : Input UInt8 :=
  ofBytes text.toUTF8

theorem ofArray_lawful (items : Array ι) : (ofArray items).Lawful := by
  intro index
  simp [ofArray]

theorem ofList_lawful (items : List ι) : (ofList items).Lawful :=
  ofArray_lawful items.toArray

@[simp] theorem length_ofList (items : List ι) :
    (ofList items).length = items.length := by
  simp [ofList, ofArray]

@[simp] theorem get?_ofList (items : List ι) (index : Nat) :
    (ofList items).get? index = items[index]? := by
  simp [ofList, ofArray]

@[simp] theorem length_ofText (text : String) :
    (ofText text).length = text.length := by
  rw [ofText, length_ofList, String.length_toList]

example : (ofUtf8 "añb").length = 4 := by decide

end Input

/-- What all parsers of one run share: the input and a configuration for the
functions that compute values. -/
structure Context (ι κ : Type) where
  input : Input ι
  config : κ

namespace Context

def at? (context : Context ι κ) (position : Nat) : Option ι :=
  context.input.get? position

def length (context : Context ι κ) : Nat :=
  context.input.length

def isEmpty (context : Context ι κ) : Bool :=
  context.input.isEmpty

end Context

end Descent
