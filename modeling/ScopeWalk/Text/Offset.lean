/-!
# Byte offsets

Positions in a text are counted in bytes of its UTF-8 form. A position is named by the text that
is left there, and its offset is what the whole text is longer than the rest.
-/
namespace ScopeWalk.Text

/-- Number of bytes of the UTF-8 form. -/
def byteLength : List Char → Nat
  | [] => 0
  | c :: cs => c.utf8Size + byteLength cs

@[simp] theorem byteLength_nil : byteLength [] = 0 := rfl

@[simp] theorem byteLength_cons (c : Char) (cs : List Char) :
    byteLength (c :: cs) = c.utf8Size + byteLength cs := rfl

@[simp] theorem byteLength_append (xs ys : List Char) :
    byteLength (xs ++ ys) = byteLength xs + byteLength ys := by
  induction xs with
  | nil => simp
  | cons c xs ih => simp only [List.cons_append, byteLength_cons, ih]; omega

/-- Offset at which `rest` begins in a text of `size` bytes that ends with it. -/
def offsetOf (size : Nat) (rest : List Char) : Nat := size - byteLength rest

theorem offsetOf_append (xs ys : List Char) :
    offsetOf (byteLength (xs ++ ys)) ys = byteLength xs := by
  simp [offsetOf]

end ScopeWalk.Text
