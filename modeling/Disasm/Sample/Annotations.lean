import Disasm.Annotation.Load

/-!
# Sample annotations

The five annotation files for a sample image: templates, symbols of data and uninitialised data, names of
functions and locals for all functions but the last, constants, and comments of every kind.  There have
to be two functions at least.
-/

namespace Disasm.Sample

def hex (n : Nat) : String := "0x" ++ Text.hexDigits n

def templatesText : String :=
  "; extra templates to exercise the override path\n" ++
  "%arrayConstant MAX_THINGS 4\n" ++
  "%alias int counter_t\n" ++
  "pair_t \x7b\n  int a\n  int b\n\x7d\n" ++
  "thing_t 0x20 \x7b\n  0x0 int id\n  0x4 *pair_t link\n  0x8 pair_t inner\n  0x10 float[MAX_THINGS] vals\n\x7d\n" ++
  "tri_t \x7b\n  short s\n  pair_t pp\n  *void vp\n  *int ip\n  byte tag\n  0x18 0x4 raw\n\x7d\n"

/-- `bss` is the address of the uninitialised data -/
def symbolsText (bss : Nat) : String :=
  "; symbols\n0x0 int zeroWord\n0x4 globalFour\n0x8 *pair_t gPairPtr\n0x10 0xc switchTable\n" ++
  hex bss ++ " pair_t bssPair\n" ++
  hex (bss + 0x10) ++ " thing_t bssThing\n" ++
  hex (bss + 0x40) ++ " float[3] bssArr\n"

/-- the locals of every other function have types -/
def localsText (i : Nat) : String :=
  if i % 2 = 0 then "  local 0x10 pPair\n  local 0x14 tmp14\n"
  else "  local 0x10 *pair_t pPair\n  local 0x18 pair_t localPair\n  local 0x20 int x20\n  local 0x24 0x4 x24\n"

def functionText (i addr : Nat) : String :=
  hex addr ++ " func_" ++ toString i ++ "\n  arg0 *pair_t pairArg\n  arg1 secondArg\n" ++ localsText i

def functionsText (functions : List Nat) : String :=
  String.join (functions.dropLast.zipIdx.map fun (addr, i) => functionText i addr)

/-- the constant of the second function has another value in the code -/
def constantsText (first second : Nat) : String :=
  "; constants\n\n" ++ hex (first + 15) ++ " DATA_WORD 0x4\n" ++
  hex (second + 15) ++ " WRONG_VAL 0x9999\n"

/-- an inline comment, and a line before and after -/
def commentsAround (place inline before after : String) : String :=
  place ++ " inline " ++ inline ++ "\n" ++
  place ++ " before 1 1\n" ++ before ++ "\n<<<\n" ++
  place ++ " after 1 1\n" ++ after ++ "\n<<<\n"

def commentsText (first lit bss : Nat) : String :=
  commentsAround (hex (first + 1)) "first local" "  pre line" "  post line" ++
  hex first ++ " @inline see @f\x7b" ++ hex first ++ "\x7d and @d\x7b0x4\x7d and @d\x7b" ++ hex bss ++ "\x7d\n" ++
  hex first ++ " @before 1 1\n ref @d\x7b0x6\x7d @f\x7b0x9999\x7d\n<<<\n" ++
  hex first ++ " after\nplain\n<<<\n" ++
  commentsAround "d 0x0" "data start" " db" " da" ++
  commentsAround ("d " ++ hex lit) "lit start" " lb" " la"

/-- the files by their names -/
def annotations (dataLength litLength : Nat) (functions : List Nat) :
    Except Fault (List (String × String)) :=
  match functions with
  | first :: second :: _ =>
    let bss := dataLength + litLength
    .ok [(Library.userFile, templatesText), (Annotations.symbolsFile, symbolsText bss),
      (Annotations.functionsFile, functionsText functions),
      (Annotations.constantsFile, constantsText first second),
      (Annotations.commentsFile, commentsText first dataLength bss)]
  | _ => .error .outOfBounds

def annotatedDirectory (files : List (String × String)) : Directory :=
  files.foldl (fun d (name, text) => d.write name text.toUTF8) {}

end Disasm.Sample
