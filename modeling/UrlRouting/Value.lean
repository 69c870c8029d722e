import UrlRouting.Bindings
import UrlRouting.Number.Shortest
import UrlRouting.Text.Pieces
import UrlRouting.Text.Quoted

/-!
# Values

What routes are given to work with: texts, numbers, truth values, lists and records.  A value
has two texts.  `Value.display` writes it out, texts quoted; `Value.urlText` is what stands for it
in a URL, where nothing has no text and a text stands for itself.  Both are the texts of values that
are writable: there is a limit to the digits of an integer, and nothing can be written beyond it.
-/

namespace UrlRouting

/-- A plain value. -/
inductive Value
  | null
  | bool (b : Bool)
  | int (n : Int)
  | double (x : Double)
  | text (t : Text)
  | list (items : List Value)
  | record (entries : List (Text × Value))
  deriving Repr

namespace Value

/-- The number of digits beyond which an integer is not written. -/
def maxDigits : Nat := 4300

mutual

/-- Whether a value can be written: no integer in it has too many digits. -/
def isWritable : Value → Bool
  | null | bool _ | double _ | text _ => true
  | int n => n.natAbs < Nat.pow 10 maxDigits
  | list items => itemsWritable items
  | record entries => entriesWritable entries

/-- Whether all items of a list can be written. -/
def itemsWritable : List Value → Bool
  | [] => true
  | v :: vs => isWritable v && itemsWritable vs

/-- Whether all entries of a record can be written. -/
def entriesWritable : List (Text × Value) → Bool
  | [] => true
  | (_, v) :: es => isWritable v && entriesWritable es

end

/-- The digits of an integer.  This is its text if it is writable; an integer that is not has no text,
and what this says of it stands for nothing. -/
def intText (n : Int) : Text :=
  if n < 0 then '-' :: Nat.toDigits 10 n.natAbs else Nat.toDigits 10 n.natAbs

mutual

/-- A writable value written out, texts between quotes. -/
def display : Value → Text
  | null => ("None" : Text)
  | bool b => if b then ("True" : Text) else ("False" : Text)
  | int n => intText n
  | double x => x.text
  | text t => Text.quoted t
  | list items => '[' :: (Text.join (", " : Text) (displayItems items) ++ [']'])
  | record entries => '{' :: (Text.join (", " : Text) (displayEntries entries) ++ ['}'])

/-- The items of a list, each written out. -/
def displayItems : List Value → List Text
  | [] => []
  | v :: vs => display v :: displayItems vs

/-- The entries of a record, each written out. -/
def displayEntries : List (Text × Value) → List Text
  | [] => []
  | (name, v) :: es => (Text.quoted name ++ (": " : Text) ++ display v) :: displayEntries es

end

/-- The text of a value in a message: a text stands for itself. -/
def message : Value → Text
  | text t => t
  | v => display v

/-- The text of a value in a URL: a text stands for itself, and nothing is empty. -/
def urlText : Value → Text
  | null => []
  | v => message v

end Value

/-- Bindings written out as a record. -/
def Bindings.display (b : Bindings Value) : Text := (Value.record b.entries).display

end UrlRouting
