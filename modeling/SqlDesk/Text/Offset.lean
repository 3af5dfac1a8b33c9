/-! Places in a text counted in the bytes of its UTF-8 form. A place inside a character is none. -/

set_option autoImplicit false

namespace SqlDesk.Text

def byteSize (chars : List Char) : Nat := chars.foldr (fun c size => c.utf8Size + size) 0

/-- The characters of a text between two byte offsets. -/
def slice (start stop : Nat) (chars : List Char) : List Char :=
  match chars with
  | [] => []
  | c :: rest =>
    let size := c.utf8Size
    if 0 < start then slice (start - size) (stop - size) rest
    else if 0 < stop then c :: slice 0 (stop - size) rest
    else []

def dropBytes? (count : Nat) (chars : List Char) : Option (List Char) :=
  match chars with
  | [] => if count = 0 then some [] else none
  | c :: rest =>
    if count = 0 then some (c :: rest)
    else if c.utf8Size ≤ count then dropBytes? (count - c.utf8Size) rest
    else none

def takeBytes? (count : Nat) (chars : List Char) : Option (List Char) :=
  match chars with
  | [] => if count = 0 then some [] else none
  | c :: rest =>
    if count = 0 then some []
    else if c.utf8Size ≤ count then (takeBytes? (count - c.utf8Size) rest).map (c :: ·)
    else none

end SqlDesk.Text
