/-!
# The text hash of functions

A multiplicative hash of text with 32-bit signed results.  Arithmetic is on unbounded integers; the
product alone is brought back to 32 bits at every step.  The value -1 is never given, -2 stands for it.
-/

namespace Disasm

/-- the signed 32-bit number congruent to `n` -/
def wrap32 (n : Int) : Int := n.bmod 0x100000000

def mulWrap (a b : Int) : Int := wrap32 (a * b)

/-- exclusive or with a natural number, on the two's complement digits -/
def xorNat : Int → Nat → Int
  | .ofNat n, k => .ofNat (n ^^^ k)
  | .negSucc n, k => .negSucc (n ^^^ k)

def hashStep (value : Int) (c : Char) : Int := xorNat (mulWrap 1000003 value) c.toNat

/-- 0 for the empty text -/
def textHash (s : String) : Int :=
  match s.toList with
  | [] => 0
  | c :: cs =>
    let value := xorNat ((c :: cs).foldl hashStep (c.toNat * 128)) (c :: cs).length
    if value = -1 then -2 else value

end Disasm
