import Mathlib
import Disasm.Listing.Code

/-!
# The search for the range around an address

A table of ranges is searched entry by entry, and the best range so far is kept.

* `Found.scan x entries`  the search through some entries in the order in which they stand;
* `Found.Answers ranges x found`  what an answer has to say when the ranges that start at each address are known:
  the names at `x`, and around it the range with the largest start, the first one of the smallest that
  reach beyond `x`;
* `Found.foldl_visit`, `Found.foldl_closer`  what is kept along the way is the first range that is least when
  ranges are compared by their distance and then by their size;
* `Found.scan_answers`, `Found.Answers.unique`  hence every search says this, and only one answer does;
* `RangeTable.find_nearest`  so the order of the entries plays no part, neither in the search by itself nor where
  the listing names a constant behind the literals.
-/

namespace Disasm

/-! ## the first least element of a list -/

section
variable {α β γ δ : Type} [LinearOrder γ] [LinearOrder δ]

/-- an element that is the first least one stays so when others are left out -/
theorem argmin_filter {f : α → γ} {p : α → Bool} {l : List α} {m : α} (h : l.argmin f = some m)
    (hm : p m = true) : (l.filter p).argmin f = some m := by
  induction l with
  | nil => cases h
  | cons a l ih =>
    rw [List.argmin_cons] at h
    cases hc : l.argmin f with
    | none =>
      rw [hc] at h
      cases h
      rw [List.argmin_eq_none.1 hc, List.filter_cons_of_pos hm]
      rfl
    | some c =>
      rw [hc] at h
      dsimp only at h
      split at h
      · next hlt =>
        cases h
        have hrest := ih hc
        cases hp : p a with
        | false => rw [List.filter_cons_of_neg (by simp [hp]), hrest]
        | true =>
          rw [List.filter_cons_of_pos hp, List.argmin_cons, hrest]
          exact if_pos hlt
      · next hle =>
        cases h
        rw [List.filter_cons_of_pos hm, List.argmin_cons]
        cases hd : (l.filter p).argmin f with
        | none => rfl
        | some d =>
          have hmem : d ∈ l := List.mem_of_mem_filter (List.argmin_mem hd)
          have hcd : f c ≤ f d := List.le_of_mem_argmin hmem hc
          exact if_neg fun hlt => hle (hcd.trans_lt hlt)

/-- a fold that keeps an image of the first least element -/
theorem foldl_eq_map_argmin {g : β → γ} {i : β → α} {step : Option α → β → Option α} {l : List β}
    (hnone : ∀ b ∈ l, step none b = some (i b))
    (hsome : ∀ c, ∀ b ∈ l, step (some (i c)) b = some (i (if g b < g c then b else c))) :
    l.foldl step none = (l.argmin g).map i := by
  induction l using List.reverseRecOn with
  | nil => rfl
  | append_singleton l b ih =>
    have hb : b ∈ l ++ [b] := List.mem_append_right l List.mem_cons_self
    have hl : ∀ b' ∈ l, b' ∈ l ++ [b] := fun b' hb' => List.mem_append_left [b] hb'
    rw [List.foldl_append, ih (fun b' hb' => hnone b' (hl b' hb')) fun c b' hb' => hsome c b' (hl b' hb'),
      List.argmin_concat]
    cases l.argmin g with
    | none => exact hnone b hb
    | some c =>
      refine (hsome c b hb).trans ?_
      show _ = Option.map i (if g b < g c then some b else some c)
      split <;> rfl

/-- the first least element of the images, when the map keeps the order -/
theorem argmin_map {f : α → γ} {g : β → δ} {i : β → α} (h : ∀ a b, f (i a) < f (i b) ↔ g a < g b)
    (l : List β) : (l.map i).argmin f = (l.argmin g).map i := by
  unfold List.argmin
  rw [List.foldl_map]
  refine foldl_eq_map_argmin (fun _ _ => rfl) fun c b _ => ?_
  show (if f (i b) < f (i c) then some (i b) else some (i c)) = _
  rw [if_congr (h b c) rfl rfl]
  split <;> rfl

end

/-! ## entries -/

/-- the ranges that some entries list at an address -/
def listed (entries : List (Int × List Range)) (a : Int) : List Range :=
  entries.flatMap fun e => if e.1 = a then e.2 else []

/-- the ranges of some entries, each with its start -/
def pairs (entries : List (Int × List Range)) : List (Int × Range) :=
  entries.flatMap fun e => e.2.map (e.1, ·)

theorem filter_pairs (entries : List (Int × List Range)) (a : Int) :
    (pairs entries).filter (·.1 = a) = (listed entries a).map (a, ·) := by
  unfold pairs listed
  rw [List.filter_flatMap, List.map_flatMap]
  congr 1
  funext e
  rw [List.filter_map]
  show (e.2.filter fun _ => decide (e.1 = a)).map (e.1, ·) = _
  by_cases he : e.1 = a
  · rw [if_pos he, List.filter_eq_self.2 fun _ _ => decide_eq_true he, he]
  · rw [if_neg he, List.filter_eq_nil_iff.2 fun _ _ h => he (of_decide_eq_true h)]
    rfl

theorem mem_listed {entries : List (Int × List Range)} {a : Int} {r : Range} :
    r ∈ listed entries a ↔ (a, r) ∈ pairs entries := by
  have h := filter_pairs entries a
  constructor
  · intro hr
    have hmem : (a, r) ∈ (pairs entries).filter (·.1 = a) := by
      rw [h]
      exact List.mem_map_of_mem hr
    exact List.mem_of_mem_filter hmem
  · intro hr
    have hmem : (a, r) ∈ (listed entries a).map (a, ·) := by
      rw [← h]
      exact List.mem_filter.2 ⟨hr, decide_eq_true rfl⟩
    obtain ⟨r', hr', he⟩ := List.mem_map.1 hmem
    cases he
    exact hr'

/-- with one entry for each address, the ranges at an address are those of its entry -/
theorem listed_of_mem {entries : List (Int × List Range)} (h : (entries.map Prod.fst).Nodup) {a : Int}
    {rs : List Range} (hmem : (a, rs) ∈ entries) : listed entries a = rs := by
  induction entries with
  | nil => cases hmem
  | cons e entries ih =>
    rw [List.map_cons, List.nodup_cons] at h
    have hrest : ∀ a, a ∉ entries.map Prod.fst → listed entries a = [] := by
      intro a ha
      refine List.flatMap_eq_nil_iff.2 fun e' he' => if_neg fun heq => ha ?_
      exact List.mem_map.2 ⟨e', he', heq⟩
    show (if e.1 = a then e.2 else []) ++ listed entries a = rs
    rcases List.mem_cons.1 hmem with rfl | hmem
    · rw [if_pos rfl, hrest a h.1, List.append_nil]
    · have hne : e.1 ≠ a := fun he => h.1 (he ▸ List.mem_map_of_mem hmem)
      rw [if_neg hne, List.nil_append, ih h.2 hmem]

/-- the ranges at an address do not depend on the order of the entries -/
theorem listed_eq_getD {t : RangeTable} {entries : List (Int × List Range)} (h : entries.Perm t.toList)
    (a : Int) : listed entries a = t.getD a [] := by
  have hnodup : (entries.map Prod.fst).Nodup := by
    rw [(h.map Prod.fst).nodup_iff, Std.TreeMap.map_fst_toList_eq_keys]
    exact Std.TreeMap.nodup_keys
  rw [Std.TreeMap.getD_eq_getD_getElem?]
  cases hget : t[a]? with
  | some rs => exact listed_of_mem hnodup (h.mem_iff.2 (Std.TreeMap.mem_toList_iff_getElem?_eq_some.2 hget))
  | none =>
    refine List.flatMap_eq_nil_iff.2 fun e he => if_neg ?_
    rintro rfl
    have hsome := Std.TreeMap.mem_toList_iff_getElem?_eq_some.1 (h.mem_iff.1 he)
    rw [hget] at hsome
    cases hsome

namespace Found

/-! ## what an answer says -/

/-- the range starts before the address and reaches beyond it -/
def Covers (x start : Int) (r : Range) : Prop := start < x ∧ x < start + r.size

instance (x start : Int) (r : Range) : Decidable (Covers x start r) := inferInstanceAs (Decidable (_ ∧ _))

/-- what is to be said about the address `x` when `ranges a` are the ranges that start at `a` -/
structure Answers (ranges : Int → List Range) (x : Int) (found : Found) : Prop where
  exact_eq : found.exact = (ranges x).map Range.name
  nearest_eq_none_iff : found.nearest = none ↔ ∀ a, ∀ r ∈ ranges a, ¬ Covers x a r
  /-- the largest start; there the first range of the smallest that reach beyond the address -/
  nearest_eq_some : ∀ n, found.nearest = some n →
    IsGreatest {a | ∃ r ∈ ranges a, Covers x a r} n.start ∧ n.distance = x - n.start ∧
      ∃ r, ((ranges n.start).filter (x - n.start < ·.size)).argmin Range.size = some r ∧
        n.name = r.name ∧ n.size = r.size

theorem Answers.unique {ranges : Int → List Range} {x : Int} {f g : Found} (hf : Answers ranges x f)
    (hg : Answers ranges x g) : f = g := by
  have hexact : f.exact = g.exact := hf.exact_eq.trans hg.exact_eq.symm
  have hnone : f.nearest = none ↔ g.nearest = none := hf.nearest_eq_none_iff.trans hg.nearest_eq_none_iff.symm
  have hnearest : f.nearest = g.nearest := by
    cases hn : f.nearest with
    | none => exact (hnone.1 hn).symm
    | some n =>
      cases hm : g.nearest with
      | none =>
        rw [hnone.2 hm] at hn
        cases hn
      | some m =>
        obtain ⟨hstart, hdistance, r, hr, hname, hsize⟩ := hf.nearest_eq_some n hn
        obtain ⟨hstart', hdistance', r', hr', hname', hsize'⟩ := hg.nearest_eq_some m hm
        have heq : n.start = m.start := hstart.unique hstart'
        rw [heq] at hr hdistance
        obtain rfl : r = r' := Option.some.inj (hr.symm.trans hr')
        have hfields : n = m := by
          cases n
          cases m
          simp_all
        rw [hfields]
  cases f
  cases g
  simp_all

/-! ## the search -/

/-- the search through some entries, in their order -/
def scan (x : Int) (entries : List (Int × List Range)) : Found :=
  entries.foldl (fun found e => e.2.foldl (visit x e.1) found) {}

theorem scan_toList (t : RangeTable) (x : Int) : scan x t.toList = t.find x := by
  unfold scan RangeTable.find
  rw [Std.TreeMap.foldl_eq_foldl_toList]

/-- the range as an answer shows it -/
def shown (x : Int) (p : Int × Range) : Nearest := ⟨p.1, p.2.name, x - p.1, p.2.size⟩

/-- ranges are compared by their distance, then by their size -/
def rank (x : Int) (p : Int × Range) : Int ×ₗ Int := toLex (x - p.1, p.2.size)

theorem closer_of_not_covers {x : Int} {p : Int × Range} (hne : x ≠ p.1) (h : ¬ Covers x p.1 p.2)
    (best : Option Nearest) : closer x p.1 p.2 best = best :=
  if_neg fun hin => h ⟨lt_of_le_of_ne hin.1 hne.symm, hin.2⟩

/-- one range: its name is kept if it starts at the address, and it is taken into account if it covers it -/
theorem visit_eq (x : Int) (p : Int × Range) (found : Found) :
    visit x p.1 found p.2 =
      { exact := found.exact ++ if p.1 = x then [p.2.name] else []
        nearest := if Covers x p.1 p.2 then closer x p.1 p.2 found.nearest else found.nearest } := by
  unfold visit
  by_cases hx : x = p.1
  · have hnot : ¬ Covers x p.1 p.2 := fun h => absurd h.1 (by omega)
    rw [if_pos hx, if_pos hx.symm, if_neg hnot]
  · rw [if_neg hx, if_neg (Ne.symm hx), List.append_nil]
    by_cases hcovers : Covers x p.1 p.2
    · rw [if_pos hcovers]
    · rw [if_neg hcovers, closer_of_not_covers hx hcovers]

/-- all ranges: the names at the address, and a fold over the ranges that cover it -/
theorem foldl_visit (x : Int) (ps : List (Int × Range)) (found : Found) :
    ps.foldl (fun found p => visit x p.1 found p.2) found =
      { exact := found.exact ++ (ps.filter (·.1 = x)).map (·.2.name)
        nearest := (ps.filter fun p => Covers x p.1 p.2).foldl (fun best p => closer x p.1 p.2 best)
          found.nearest } := by
  induction ps generalizing found with
  | nil =>
    show found = { found with exact := found.exact ++ [] }
    rw [List.append_nil]
  | cons p ps ih =>
    have hexact : (((p :: ps).filter (·.1 = x)).map (·.2.name)) =
        (if p.1 = x then [p.2.name] else []) ++ (ps.filter (·.1 = x)).map (·.2.name) := by
      by_cases hx : p.1 = x <;> simp [hx]
    rw [List.foldl_cons, ih, visit_eq, hexact, List.append_assoc]
    by_cases hcovers : Covers x p.1 p.2
    · rw [if_pos hcovers, List.filter_cons_of_pos (by simpa using hcovers), List.foldl_cons]
    · rw [if_neg hcovers, List.filter_cons_of_neg (by simpa using hcovers)]

/-- among ranges that cover the address, the fold keeps the first one of least rank -/
theorem foldl_closer {x : Int} {ps : List (Int × Range)} (h : ∀ p ∈ ps, Covers x p.1 p.2) :
    ps.foldl (fun best p => closer x p.1 p.2 best) none = (ps.argmin (rank x)).map (shown x) := by
  have hin : ∀ p ∈ ps, p.1 ≤ x ∧ x < p.1 + p.2.size := fun p hp => ⟨(h p hp).1.le, (h p hp).2⟩
  refine foldl_eq_map_argmin (fun p hp => ?_) fun q p hp => ?_
  · unfold closer
    rw [if_pos (hin p hp)]
    rfl
  · unfold closer
    rw [if_pos (hin p hp)]
    show (if x - p.1 < x - q.1 then some (shown x p)
      else if x - p.1 = x - q.1 ∧ p.2.size < q.2.size then some (shown x p) else some (shown x q)) = _
    have hrank : rank x p < rank x q ↔ x - p.1 < x - q.1 ∨ x - p.1 = x - q.1 ∧ p.2.size < q.2.size :=
      Prod.Lex.toLex_lt_toLex
    by_cases hdistance : x - p.1 < x - q.1
    · rw [if_pos hdistance, if_pos (hrank.2 (.inl hdistance))]
    · rw [if_neg hdistance]
      by_cases hsize : x - p.1 = x - q.1 ∧ p.2.size < q.2.size
      · rw [if_pos hsize, if_pos (hrank.2 (.inr hsize))]
      · rw [if_neg hsize, if_neg fun hlt => (hrank.1 hlt).elim hdistance hsize]

/-- the names at the address and the range of least rank among those that cover it -/
theorem scan_eq (x : Int) (entries : List (Int × List Range)) :
    scan x entries =
      { exact := (listed entries x).map Range.name
        nearest := (((pairs entries).filter fun p => Covers x p.1 p.2).argmin (rank x)).map (shown x) } := by
  have hflat : scan x entries = (pairs entries).foldl (fun found p => visit x p.1 found p.2) {} := by
    unfold scan pairs
    rw [List.foldl_flatMap]
    congr 1
    funext found e
    rw [List.foldl_map]
  have hcovers : ∀ p ∈ (pairs entries).filter (fun p => Covers x p.1 p.2), Covers x p.1 p.2 :=
    fun p hp => of_decide_eq_true (List.mem_filter.1 hp).2
  rw [hflat, foldl_visit, filter_pairs, List.map_map]
  show Found.mk ([] ++ _) (List.foldl _ none _) = _
  rw [foldl_closer hcovers]
  rfl

/-- the search finds, in the entry of the largest start, the first one of the smallest ranges -/
theorem argmin_of_rank {x a : Int} {r : Range} {entries : List (Int × List Range)}
    (h : ((pairs entries).filter fun p => Covers x p.1 p.2).argmin (rank x) = some (a, r)) :
    ((listed entries a).filter (x - a < ·.size)).argmin Range.size = some r := by
  have hcovers : Covers x a r := of_decide_eq_true (List.mem_filter.1 (List.argmin_mem h)).2
  have hsame := argmin_filter (p := fun p => decide (p.1 = a)) h (decide_eq_true rfl)
  have hfilter : ((pairs entries).filter fun p => Covers x p.1 p.2).filter (fun p => decide (p.1 = a)) =
      ((listed entries a).filter (x - a < ·.size)).map (a, ·) := by
    rw [List.filter_comm, filter_pairs, List.filter_map]
    congr 1
    refine List.filter_congr fun r' _ => decide_eq_decide.2 ?_
    have ha := hcovers.1
    show a < x ∧ x < a + r'.size ↔ x - a < r'.size
    omega
  have horder : ∀ r' r'' : Range, rank x (a, r') < rank x (a, r'') ↔ r'.size < r''.size := by
    intro r' r''
    refine Prod.Lex.toLex_lt_toLex.trans ?_
    simp
  rw [hfilter, argmin_map horder] at hsame
  obtain ⟨r', hr', he⟩ := Option.map_eq_some_iff.1 hsame
  cases he
  exact hr'

theorem scan_answers (x : Int) (entries : List (Int × List Range)) :
    Answers (listed entries) x (scan x entries) := by
  have hmem : ∀ a r, (a, r) ∈ (pairs entries).filter (fun p => Covers x p.1 p.2) ↔
      r ∈ listed entries a ∧ Covers x a r := by
    intro a r
    rw [List.mem_filter, mem_listed, decide_eq_true_iff]
  rw [scan_eq]
  refine ⟨rfl, ?_, fun n hn => ?_⟩
  · show Option.map _ _ = none ↔ _
    rw [Option.map_eq_none_iff, List.argmin_eq_none, List.eq_nil_iff_forall_not_mem]
    constructor
    · intro hnil a r hr hcovers
      exact hnil (a, r) ((hmem a r).2 ⟨hr, hcovers⟩)
    · rintro hnot ⟨a, r⟩ hp
      exact hnot a r ((hmem a r).1 hp).1 ((hmem a r).1 hp).2
  · obtain ⟨⟨a, r⟩, hr, rfl⟩ := Option.map_eq_some_iff.1 hn
    refine ⟨⟨⟨r, (hmem a r).1 (List.argmin_mem hr)⟩, ?_⟩, rfl, r, argmin_of_rank hr, rfl, rfl⟩
    rintro b ⟨q, hq⟩
    -- a range that starts later is nearer
    have hle : rank x (a, r) ≤ rank x (b, q) := List.le_of_mem_argmin ((hmem b q).2 hq) hr
    rcases Prod.Lex.toLex_le_toLex.1 hle with hlt | ⟨heq, -⟩
    · show b ≤ a
      dsimp only at hlt
      omega
    · show b ≤ a
      dsimp only at heq
      omega

end Found

/-! ## constants in the listing -/

namespace Listing

/-- the constant of an entry is an address behind the literals that has no plain name, and no call or jump follows -/
structure Behind (p : Program) (e : Entry) (x : Int) (next : Nat) : Prop where
  parm_eq : e.instruction.parm = x
  unlabelled : p.labels.constants[(e.index : Int)]? = none
  unnamed : p.labels.symbols[x]? = none
  data_le : p.header.dataLength ≤ x
  literals_le : p.header.dataLength + p.header.litLength ≤ x
  next_ne_call : next ≠ Opcode.call.code
  next_ne_jump : next ≠ Opcode.jump.code

/-- the entry of a constant for which an answer of the search is shown, and what is carried on -/
def answered (s : State) (e : Entry) (x : Int) (found : Found) : Entry × State :=
  let n := (foundNaming? found).getD ⟨"", "0x" ++ Text.hex x⟩
  ({ e with note := {}, remark := n.remark }, { s with stack := s.stack.pushed (some n.operand) })

theorem constEntry_behind {p : Program} {e : Entry} {x : Int} {next : Nat} (h : Behind p e x next) (s : State) :
    constEntry p s e (some next) = .ok (answered s e x (p.labels.ranges.find x)) := by
  obtain ⟨rfl, hlabel, hname, hdata, hliterals, hcall, hjump⟩ := h
  have hcode : (decide (next = Opcode.call.code) || decide (next = Opcode.jump.code)) = false := by
    simp [hcall, hjump]
  have htext : constantText p e.index e.instruction.parm next =
      .ok ⟨{}, (foundNaming? (p.labels.ranges.find e.instruction.parm)).getD
        ⟨"", "0x" ++ Text.hex e.instruction.parm⟩⟩ := by
    unfold constantText
    rw [hlabel]
    dsimp only
    rw [hcode, if_neg fun hin => absurd hin.2.1 (by omega), if_neg fun hin => absurd hin.2.1 (by omega),
      if_neg hcall, if_pos ⟨hdata, rfl⟩]
    unfold dataNaming?
    rw [hname]
    rfl
  show (constantText p e.index e.instruction.parm next >>= _) = _
  rw [htext]
  rfl

end Listing

namespace RangeTable

/-- the search through a table says what it has to, in whatever order the entries are visited, and the listing names
the constants behind the literals by it -/
theorem find_nearest (t : RangeTable) (x : Int) :
    Found.Answers (t.getD · []) x (t.find x) ∧
      ∀ entries : List (Int × List Range), entries.Perm t.toList →
        Found.scan x entries = t.find x ∧
          ∀ (p : Program) (s : Listing.State) (e : Entry) (next : Nat), p.labels.ranges = t →
            Listing.Behind p e x next →
            Listing.constEntry p s e (some next) = .ok (Listing.answered s e x (Found.scan x entries)) := by
  have hanswers : ∀ entries : List (Int × List Range), entries.Perm t.toList →
      Found.Answers (t.getD · []) x (Found.scan x entries) := by
    intro entries hperm
    have heq : listed entries = (t.getD · []) := funext (listed_eq_getD hperm)
    exact heq ▸ Found.scan_answers x entries
  have hfind := hanswers t.toList (.refl _)
  rw [Found.scan_toList] at hfind
  refine ⟨hfind, fun entries hperm => ?_⟩
  have hscan := (hanswers entries hperm).unique hfind
  refine ⟨hscan, ?_⟩
  rintro p s e next rfl hbehind
  rw [hscan]
  exact Listing.constEntry_behind hbehind s

/-- ranges inside others, and three that start at one address -/
def nested : RangeTable :=
  ((((({} : RangeTable).add 0x100 ⟨0x40, "player", .raw, none, none, some ""⟩).add 0x110
    ⟨0x10, "origin", .raw, none, none, some ""⟩).add 0x110 ⟨0xc, "angles", .raw, none, none, some ""⟩).add 0x110
    ⟨0xc, "velocity", .raw, none, none, some ""⟩).add 0x118 ⟨2, "team", .raw, none, none, some ""⟩

def nestedProgram : Program :=
  { image := ⟨⟨.one, 2, 32, 6, 40, 8, 8, 0x200, 0⟩, #[], #[], #[], #[]⟩
    annotations := { labels := { ranges := nested } } }

/-- the entries the other way round: `team` ends in front of the address, `origin` is larger, `velocity` comes later -/
theorem find_nearest_nested :
    nested.toList.reverse.Perm nested.toList ∧
      Found.scan 0x11a nested.toList.reverse = nested.find 0x11a ∧
      nested.find 0x11a = ⟨[], some ⟨0x110, "angles", 0xa, 0xc⟩⟩ ∧
      Listing.constEntry nestedProgram {} ⟨0, ⟨.const, 0x11a⟩, none, none, "", "", "", {}, "", none, none⟩
          (some Opcode.load4.code) =
        .ok (⟨0, ⟨.const, 0x11a⟩, none, none, "", "", "", {}, "angles + 0xa", none, none⟩,
          ⟨⟨[some "(&angles + 0xa)"], true⟩, none, none⟩) := by
  have hperm : nested.toList.reverse.Perm nested.toList := List.reverse_perm _
  obtain ⟨-, horder⟩ := find_nearest nested 0x11a
  obtain ⟨hscan, hlisting⟩ := horder _ hperm
  have hfind : nested.find 0x11a = ⟨[], some ⟨0x110, "angles", 0xa, 0xc⟩⟩ := by decide +kernel
  refine ⟨hperm, hscan, hfind, ?_⟩
  rw [hlisting nestedProgram {} _ _ rfl ⟨rfl, rfl, rfl, by decide, by decide, by decide, by decide⟩, hscan, hfind]
  rfl

end RangeTable

end Disasm
