/-!
# Widths

How many characters an expression takes at least and at most. Widths are capped, since nothing
depends on how large a very large one is, but for one bound: preceding text is looked back on by
fewer than `roundsLimit` characters. The bound is that of one generation of engines and no part of
what an expression means; later ones have it elsewhere.
-/

namespace NextWord.Regex

def widthLimit : Nat := Nat.pow 2 64

/-- The least and greatest number of characters an expression takes. -/
structure Width where
  least : Nat
  most : Nat
  deriving DecidableEq, Repr

namespace Width

def zero : Width := ⟨0, 0⟩

def one : Width := ⟨1, 1⟩

def plus (v w : Width) : Width :=
  ⟨min (v.least + w.least) widthLimit, min (v.most + w.most) widthLimit⟩

def orElse (v w : Width) : Width :=
  ⟨min v.least w.least, max v.most w.most⟩

def times (w : Width) (least : Nat) (most : Option Nat) : Width :=
  ⟨min (w.least * least) widthLimit,
    match most with
    | some n => min (w.most * n) widthLimit
    | none => if w.most = 0 then 0 else widthLimit⟩

end Width
end NextWord.Regex
