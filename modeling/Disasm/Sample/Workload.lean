import Disasm.Listing.Segments
import Disasm.OperandStack
import Disasm.Sample.Program
import Disasm.Template.Defaults

/-!
# Sample workloads

Work of a chosen size for each part of the library, and a few numbers that sum up what it gave:

* `loadCounts`, `listingLength`, `statementListingLength`, `analysisCounts`, `segmentLengths`  on sample
  programs;
* `templateCounts`  templates read from a text;
* `lookupCounts`  searches for addresses in a table of ranges;
* `statementCount`  statements written on the operand stack;
* `readTotal`  words and bytes read from a file;
* `literalLength`  literals as listings show them;
* `headerCounts`  images with bad and with good headers.
-/

namespace Disasm.Sample

/-! ## programs -/

/-- functions, templates, addresses with ranges, and named constants of a sample of `n` functions -/
def loadCounts (n : Nat) : Except Fault (List Nat) := do
  let p ← load { functions := n, type := some "cgame" }
  return [p.analysis.sizes.size, p.library.templates.size, p.labels.ranges.size, p.labels.constants.size]

/-- the length of the listing of a primed sample -/
def listingLength (n : Nat) : Except Fault Nat := do
  return (← primedListing { functions := n, type := some "cgame" }).length

/-- the length of a listing that shows statements in place of their instructions -/
def statementListingLength (n : Nat) : Except Fault Nat := do
  return (← listing (← load { functions := n, type := some "game" }) true).length

/-- functions, targets of branches and of switches, and reads through pointers -/
def analysisCounts (n : Nat) : Except Fault (List Nat) := do
  let a := (← load { functions := n, annotate := false }).analysis
  return [a.sizes.size, a.jumps.size, a.cases.size, a.pointerReads.size]

/-- what an action on a program prints -/
def printed (a : Program.Work Unit) (p : Program) : Except Fault String :=
  match a ⟨p, {}⟩ with
  | .ok _ s => .ok s.console.out
  | .error f _ => .error f

/-- the lengths of the listings of everything but the code, and of the code itself; the jump table has
as many words as there are extra ones in the data, and two more -/
def segmentLengths (n : Nat) : Except Fault (List Nat) := do
  let p ← load { functions := 6, extraWords := n, extraLits := n }
  let jumps := 4 * (n + 2)
  let q := { p with image := { p.image with
    header := { p.image.header with jumpLength := jumps }
    jumps := Image.zeros jumps } }
  return [(Listing.headerText q.header).length, (Listing.functionsText q).length,
    (← printed (Listing.printData q) q).length, (← printed (Listing.printLit q) q).length,
    (← printed (Listing.printJumpTable q) q).length, q.codeBytes.length]

/-! ## templates -/

/-- `n` templates, and a larger one -/
def templateText (n : Nat) : String :=
  "%arrayConstant ROWS 4\n%alias int count_t\n" ++
  String.join ((List.range n).map fun i =>
    "item_" ++ toString i ++ " \x7b\n  count_t id\n  short flags\n  byte tag\n  *item_" ++ toString i ++
      " next\n\x7d\n") ++
  "table_t \x7b\n  float[ROWS][4] rows\n  *table_t[ROWS] links\n  char[64] name\n  count_t[ROWS] counts\n\x7d\n"

/-- how many templates there are, and the size of the last one -/
def templateCounts (n : Nat) : Except Fault (List Int) :=
  let text := templateText n
  match Library.load false Library.userFile text ⟨{}, { quiet := true }⟩ with
  | .ok _ s => .ok [s.state.templates.size,
      ((s.state.templates["table_t"]?).map (·.size)).getD 0]
  | .error f _ => .error f

/-! ## ranges -/

/-- the bytes from one symbol to the next -/
def stride : Nat := 16

/-- the sizes of the ranges that start at a symbol: the whole of it, and perhaps its members -/
def rangeSizes (i : Nat) : List Int :=
  match i % 3 with
  | 0 => [16, 8, 4, 1]
  | 1 => [16, 8]
  | _ => [16]

def rangeTable (n : Nat) : RangeTable :=
  (List.range n).foldl (fun t i => (rangeSizes i).zipIdx.foldl (fun t (size, j) =>
    t.add (stride * i : Nat) { size, name := "sym_" ++ toString i ++ "_" ++ toString j }) t) {}

/-- for every address of every symbol, and the one behind it: the names of ranges that start there, and
the addresses for which there is a range at all -/
def lookupCounts (n : Nat) : List Nat :=
  let table := rangeTable n
  let found := (List.range n).flatMap fun i =>
    (List.range (stride + 1)).map fun k => table.find (stride * i + k : Nat)
  [found.foldl (fun n f => n + f.exact.length) 0,
    (found.filter fun f => !f.exact.isEmpty || f.nearest.isSome).length]

/-! ## statements -/

inductive Step where
  | leaf (text : String)
  | apply (o : Operation)

/-- a value made of `a` by an operation on it and `b` -/
def combine (bs : List Binary) : List Step :=
  .leaf "a" :: bs.flatMap fun b => [.leaf "b", .apply (.binary b)]

/-- operations that end in statements, one list for each -/
def statements : List (List Step) :=
  [[.leaf "a", .leaf "b", .apply (.store .store1)],
    [.leaf "a", .leaf "b", .apply (.store .store2)],
    [.leaf "a", .leaf "b", .apply (.store .store4)],
    [.leaf "a", .apply .arg],
    [.leaf "a", .leaf "b", .apply .copy],
    [.leaf "a", .apply (.unary .load1), .apply (.unary .sex8), .apply (.unary .load2),
      .apply (.unary .sex16), .apply (.unary .load4), .apply .arg],
    combine [.add, .sub, .muli, .divi, .modi] ++ [.apply .arg],
    combine [.mulu, .divu, .modu] ++ [.apply .arg],
    combine [.band, .bor, .bxor, .lsh, .rshi, .rshu] ++ [.apply (.unary .bcom), .apply .arg],
    combine [.addf, .subf, .mulf, .divf] ++
      [.apply (.unary .cvfi), .apply (.unary .cvif), .apply .arg],
    [.leaf "a", .apply (.negate .negf), .apply .arg]]

def runStep : Step → OperandStack.Work Unit
  | .leaf text => OperandStack.push (some text)
  | .apply o => OperandStack.perform (some "0x8") o

/-- the stack holds the statement alone after the steps -/
def isStatement (steps : List Step) : Bool :=
  match (steps.forM runStep).run .empty with
  | .ok _ s => s.items.length = 1
  | .error _ _ => false

/-- the statements of `n` rounds -/
def statementCount (n : Nat) : Nat :=
  (List.range n).foldl (fun k _ => k + statements.countP isStatement) 0

/-! ## files -/

/-- the bytes that one round reads: a word and two bytes -/
def roundBytes : Nat := 6

/-- the words and bytes of `n` rounds, with the number of the round in one byte and a numeral added -/
def readRounds : Nat → Nat → Int → EStateM Fault Cursor Int
  | 0, _, total => return total
  | n + 1, i, total => do
    let word ← Cursor.readWord
    let first ← Cursor.readByte
    let second ← Cursor.readByte
    readRounds n (i + 1) (total + word + first.toNat + second.toNat + 123 + (i % 256 : Nat))

/-- the total, and the place of the cursor once it is back at the start -/
def readTotal (n : Nat) : Except Fault (Int × Nat) :=
  let bytes := ((List.range (roundBytes * n)).map Nat.toUInt8).toArray
  let work : EStateM Fault Cursor (Int × Nat) := do
    let total ← readRounds n 0 0
    Cursor.seek 0
    return (total, ← Cursor.tell)
  match work.run { bytes } with
  | .ok r _ => .ok r
  | .error f _ => .error f

/-! ## literals -/

/-- the bytes of the literal `i`: shown ones, then up to five others -/
def literalOf (i : Nat) : List UInt8 :=
  ("str_" ++ toString i).toUTF8.toList ++ [7, 8, 9, 10, 11].take (i % 6)

def literalLength (n : Nat) : Nat :=
  (List.range n).foldl (fun k i => k + (Image.quoteLiteral (literalOf i)).length) 0

/-! ## headers -/

/-- a header whose field `i` is negative; the first field is the magic number -/
def badHeader (i : Nat) : List UInt8 :=
  words (((Version.two.magic :: List.replicate 8 0).set (i % 9) (-1)))

def goodHeader (v : Version) : List UInt8 := words (v.magic :: List.replicate 8 0)

def isRefused (bytes : List UInt8) : Bool :=
  match Image.ofBytes (ByteArray.mk bytes.toArray) with
  | .ok _ => false
  | .error _ => true

/-- how many of `n` bad headers are refused, and how many of two good ones are not -/
def headerCounts (n : Nat) : List Nat :=
  [(List.range n).countP fun i => isRefused (badHeader i),
    [Version.one, Version.two].countP fun v => !isRefused (goodHeader v)]

end Disasm.Sample
