import Disasm.Listing.Code
import Disasm.Program
import Disasm.Sample.Annotations
import Disasm.Sample.Image

/-!
# Sample programs

A sample image made a program, with or without the sample annotations.  A program may be primed for a
listing: its tables get entries that reach every form of label, heading and name.
-/

namespace Disasm.Sample

structure SampleOptions where
  functions : Nat
  extraWords : Nat := 0
  extraLits : Nat := 0
  magic : Int := Version.two.magic
  type : Option String := none
  annotate : Bool := true

/-- loads a sample without warnings -/
def load (o : SampleOptions) : Except Fault Program := do
  let sample ← image o.functions o.extraWords o.extraLits o.magic
  let files ← if o.annotate then annotations sample.dataLength sample.litLength sample.functions
    else pure []
  (Program.load (annotatedDirectory files) o.type (ByteArray.mk sample.bytes.toArray)
    { quiet := true }).1

/-! ## priming -/

/-- keys in the order of the first elements of their lists -/
def keysInOrder {β : Type} (first : β → Int) (t : Std.TreeMap Int (List β)) : List Int :=
  ((t.toList.filterMap fun (key, bs) => bs.head?.map fun b => (first b, key)).mergeSort
    fun x y => x.1 ≤ y.1).map (·.2)

/-- a guess for the name of each function, the last one for functions with one hash -/
def guessNames (p : Program) : KnownNames :=
  { p.names with functions := p.analysis.hashes.toList.foldl (fun t (addr, hash) =>
      t.insert hash ["fake_" ++ Text.hex addr]) p.names.functions }

/-- the last two functions lose their names, two data addresses are named anew -/
def primeLabels (p : Program) (l : Labels) : Labels :=
  let last := p.analysis.sizes.keys.reverse.take 2
  let bss := p.header.dataLength + p.header.litLength + 4
  { l with
    functions := last.foldl (fun t addr => t.erase addr) l.functions
    symbols := (l.symbols.erase 4).erase bss
    ranges := (l.ranges.insert 4 [{ size := 4, name := "dataExact" }]).insert bss
      [{ size := 4, name := "bssExact" }] }

/-- the jump table leads to two targets of jumps, one of a switch, and a place of no other kind -/
def primeTargets (p : Program) : List Nat :=
  let targets := (keysInOrder id p.analysis.jumps).take 2 ++
    (keysInOrder (·.1) p.analysis.cases).take 1 ++ [3]
  p.jumpTargets ++ targets.map Int.toNat

/-- of three functions, the first has no arguments, the second any number, the third two -/
def primeParms (a : Analysis) : Std.TreeMap Int Int :=
  match a.sizes.keys with
  | f0 :: f1 :: f2 :: _ => ((a.parmCounts.insert f0 0).insert f1 (-1)).insert f2 12
  | _ => a.parmCounts

def prime (p : Program) : Program :=
  { p with
    names := guessNames p
    annotations := { p.annotations with labels := primeLabels p p.labels }
    jumpTargets := primeTargets p
    analysis := { p.analysis with parmCounts := primeParms p.analysis } }

/-- the listing of a program; `replace` leaves out what statements stand for -/
def listing (p : Program) (replace : Bool) : Except Fault String :=
  match Listing.entries p with
  | (entries, none) => .ok (Listing.layOut replace entries)
  | (_, some (.fault f)) => .error f
  | (_, some (.problem _)) => .error (.stopped 1)

/-- the listing of a primed sample -/
def primedListing (o : SampleOptions) : Except Fault String := do
  listing (prime (← load o)) false

end Disasm.Sample
