import ComponentHost.Toml.Document

/-! In every table of a document each key stands once. A table in the making gets a key only where
it has none, or in the place of the entry that it had, and this holds at every depth of it. -/

namespace ComponentHost.Toml

inductive Value.Keyed : Value → Prop
  | boolean (b : Bool) : Keyed (.boolean b)
  | integer (n : Int) : Keyed (.integer n)
  | float (x : Binary64) : Keyed (.float x)
  | text (s : String) : Keyed (.text s)
  | moment : Keyed .moment
  | list {items : List Value} (each : ∀ v ∈ items, Keyed v) : Keyed (.list items)
  | table {entries : List (String × Value)} (once : (entries.map Prod.fst).Nodup)
      (each : ∀ e ∈ entries, Keyed e.2) : Keyed (.table entries)

mutual

inductive Node.Keyed : Node → Prop
  | value {v : Value} (keyed : v.Keyed) : Node.Keyed (.value v)
  | table {t : Tree} (keyed : Tree.Keyed t) : Node.Keyed (.table t)
  | tables {ts : List Tree} (each : ∀ t ∈ ts, Tree.Keyed t) : Node.Keyed (.tables ts)

inductive Tree.Keyed : Tree → Prop
  | mk {opened dotted : Bool} {entries : List (String × Node)}
      (once : (entries.map Prod.fst).Nodup) (each : ∀ e ∈ entries, Node.Keyed e.2) :
      Tree.Keyed (.mk opened dotted entries)

end

namespace Tree

variable {t u : Tree} {key : String} {n : Node}

theorem keyed_iff : t.Keyed ↔ (t.entries.map Prod.fst).Nodup ∧ ∀ e ∈ t.entries, e.2.Keyed := by
  obtain ⟨opened, dotted, entries⟩ := t
  exact ⟨fun ⟨once, each⟩ => ⟨once, each⟩, fun ⟨once, each⟩ => ⟨once, each⟩⟩

theorem keyed_blank (opened dotted : Bool) : (mk opened dotted []).Keyed :=
  ⟨List.nodup_nil, by simp⟩

theorem Keyed.get? (keyed : t.Keyed) (found : t.get? key = some n) : n.Keyed := by
  obtain ⟨e, there, rfl⟩ := Option.map_eq_some_iff.mp found
  exact (keyed_iff.mp keyed).2 e (List.mem_of_find?_eq_some there)

theorem Keyed.set (keyed : t.Keyed) (new : n.Keyed) : (t.set key n).Keyed := by
  obtain ⟨once, each⟩ := keyed_iff.mp keyed
  unfold Tree.set
  split
  case isTrue there =>
    refine ⟨?_, ?_⟩
    · have names : (t.entries.map fun e => if e.1 = key then (key, n) else e).map Prod.fst =
          t.entries.map Prod.fst := by
        rw [List.map_map]
        refine List.map_congr_left fun e _ => ?_
        simp only [Function.comp]
        split <;> simp_all
      rwa [names]
    · intro e mem
      obtain ⟨old, was, rfl⟩ := List.mem_map.mp mem
      split
      · exact new
      · exact each old was
  case isFalse absent =>
    refine ⟨?_, ?_⟩
    · have fresh : key ∉ t.entries.map Prod.fst := by simpa using absent
      rw [List.map_append, List.map_singleton, List.nodup_append]
      exact ⟨once, by simp, fun a mem b single =>
        by rw [List.mem_singleton.mp single]; exact ne_of_mem_of_not_mem mem fresh⟩
    · simpa [or_imp, forall_and] using ⟨fun k m mem => each (k, m) mem, new⟩

theorem Keyed.erase (keyed : t.Keyed) : (t.erase key).Keyed := by
  obtain ⟨once, each⟩ := keyed_iff.mp keyed
  exact ⟨once.sublist (List.filter_sublist.map _), fun e mem => each e (List.mem_filter.mp mem).1⟩

/-- What is done at the end of a path keeps the keys apart if it does so in the table there. -/
theorem Keyed.change {viaDots : Bool} {f : Tree → Option Tree}
    (keeps : ∀ u w, u.Keyed → f u = some w → w.Keyed) {path : List String} (keyed : t.Keyed)
    (changed : change viaDots f path t = some u) : u.Keyed := by
  induction path generalizing t u with
  | nil => exact keeps t u keyed changed
  | cons key path ih =>
    unfold Tree.change at changed
    split at changed
    case h_1 =>
      obtain ⟨w, inner, made⟩ := Option.bind_eq_some_iff.mp changed
      cases made
      exact keyed.set (.table (ih (keyed_blank _ _) inner))
    case h_2 => cases changed
    case h_3 v found =>
      cases keyed.get? found with
      | table own =>
        split at changed
        · cases changed
        · obtain ⟨w, inner, made⟩ := Option.bind_eq_some_iff.mp changed
          cases made
          exact keyed.set (.table (ih own inner))
    case h_4 vs found =>
      cases keyed.get? found with
      | tables each =>
        obtain ⟨last, isLast, changed⟩ := Option.bind_eq_some_iff.mp changed
        obtain ⟨w, inner, made⟩ := Option.bind_eq_some_iff.mp changed
        cases made
        refine keyed.set (.tables fun x mem => ?_)
        rcases List.mem_append.mp mem with before | new
        · exact each x (List.dropLast_subset vs before)
        · rw [List.mem_singleton.mp new]
          exact ih (each last (List.mem_of_getLast? isLast)) inner

theorem Keyed.assign {path : List String} {v : Value} (keyed : t.Keyed) (new : v.Keyed)
    (assigned : t.assign path v = some u) : u.Keyed := by
  obtain ⟨key, -, changed⟩ := Option.bind_eq_some_iff.mp assigned
  refine keyed.change (fun u w own set => ?_) changed
  split at set
  · cases set
  · cases set
    exact own.set (.value new)

theorem Keyed.assignAll {l : List (List String × Value)} (keyed : t.Keyed)
    (new : ∀ a ∈ l, a.2.Keyed) (assigned : t.assignAll l = some u) : u.Keyed := by
  induction l generalizing t with
  | nil => cases assigned; exact keyed
  | cons a l ih =>
    obtain ⟨w, first, rest⟩ := Option.bind_eq_some_iff.mp assigned
    exact ih (keyed.assign (new a List.mem_cons_self) first)
      (fun b mem => new b (List.mem_cons_of_mem a mem)) rest

theorem Keyed.define {path : List String} {l : List (List String × Value)} (keyed : t.Keyed)
    (new : ∀ a ∈ l, a.2.Keyed) (defined : t.define path l = some u) : u.Keyed := by
  obtain ⟨key, -, changed⟩ := Option.bind_eq_some_iff.mp defined
  refine keyed.change (fun u w own made => ?_) changed
  have fill : ∀ entries, (Tree.mk false false entries).Keyed →
      (do let own ← (Tree.mk false false entries).assignAll l
          some ((u.erase key).set key (.table own))) = some w → w.Keyed := by
    intro entries opened filled
    obtain ⟨x, assigned, set⟩ := Option.bind_eq_some_iff.mp filled
    cases set
    exact own.erase.set (.table (opened.assignAll new assigned))
  dsimp only at made
  split at made
  · exact fill [] (keyed_blank _ _) made
  · next inner found =>
    split at made
    · cases own.get? found with
      | table keyed =>
        obtain ⟨once, each⟩ := keyed_iff.mp keyed
        exact fill inner.entries ⟨once, each⟩ made
    · cases made
  · cases made

theorem Keyed.append {path : List String} {l : List (List String × Value)} (keyed : t.Keyed)
    (new : ∀ a ∈ l, a.2.Keyed) (appended : t.append path l = some u) : u.Keyed := by
  obtain ⟨key, -, made⟩ := Option.bind_eq_some_iff.mp appended
  obtain ⟨x, assigned, changed⟩ := Option.bind_eq_some_iff.mp made
  have fresh : x.Keyed := (keyed_blank _ _).assignAll new assigned
  refine keyed.change (fun u w own made => ?_) changed
  split at made
  · cases made
    exact own.set (.tables (by simpa using fresh))
  · next us found =>
    cases made
    cases own.get? found with
    | tables each =>
      refine own.set (.tables fun y mem => ?_)
      rcases List.mem_append.mp mem with before | added
      · exact each y before
      · rw [List.mem_singleton.mp added]
        exact fresh
  · cases made

end Tree

theorem entriesToValues_eq_map (entries : List (String × Node)) :
    entriesToValues entries = entries.map fun e => (e.1, e.2.toValue) := by
  induction entries with
  | nil => rfl
  | cons e entries ih => rw [entriesToValues, ih, List.map_cons]

theorem treesToValues_eq_map (ts : List Tree) : treesToValues ts = ts.map Tree.toValue := by
  induction ts with
  | nil => rfl
  | cons t ts ih => rw [treesToValues, ih, List.map_cons]

mutual

theorem Node.Keyed.toValue : {n : Node} → n.Keyed → n.toValue.Keyed
  | .value _, .value keyed => keyed
  | .table _, .table keyed => keyed.toValue
  | .tables ts, .tables each => by
    rw [Node.toValue, treesToValues_eq_map]
    refine .list fun v mem => ?_
    obtain ⟨t, there, rfl⟩ := List.mem_map.mp mem
    exact (each t there).toValue

theorem Tree.Keyed.toValue : {t : Tree} → t.Keyed → t.toValue.Keyed
  | .mk _ _ entries, .mk once each => by
    rw [Tree.toValue, entriesToValues_eq_map]
    refine .table ?_ fun e mem => ?_
    · simpa [List.map_map, Function.comp_def] using once
    · obtain ⟨e, there, rfl⟩ := List.mem_map.mp mem
      exact (each e there).toValue

end

/-! ### Readers -/

def Keyed (read : Option (Value × List Char)) : Prop := ∀ v t, read = some (v, t) → v.Keyed

theorem keyed_none : Keyed none := fun _ _ h => nomatch h

theorem keyed_some {v : Value} {t : List Char} (keyed : v.Keyed) : Keyed (some (v, t)) := by
  intro w u h
  cases h
  exact keyed

theorem keyed_bind {α : Type} {o : Option α} {f : α → Option (Value × List Char)}
    (each : ∀ a, o = some a → Keyed (f a)) : Keyed (o >>= f) := by
  intro v t h
  obtain ⟨a, found, rest⟩ := Option.bind_eq_some_iff.mp h
  exact each a found v t rest

theorem keyed_fitInteger {n : Int} {v : Value} (h : fitInteger n = some v) : v.Keyed := by
  unfold fitInteger at h
  split at h
  · cases h; exact .integer n
  · cases h

theorem keyed_makeFloat {negative : Bool} {f : Float} {v : Value}
    (h : makeFloat negative f = some v) : v.Keyed := by
  unfold makeFloat at h
  repeat' split at h
  all_goals cases h <;> exact .float _

theorem keyed_finishFloat (negative : Bool) (digits : List Char) (places : Nat) (t : List Char) :
    Keyed (finishFloat negative digits places t) := by
  unfold finishFloat
  split
  · split
    · exact keyed_bind fun _ _ => keyed_bind fun _ made => keyed_some (keyed_makeFloat made)
    · exact keyed_bind fun _ made => keyed_some (keyed_makeFloat made)
  · exact keyed_bind fun _ made => keyed_some (keyed_makeFloat made)

theorem keyed_readRadix (base : Nat) (isDigit : Char → Bool) (t : List Char) :
    Keyed (readRadix base isDigit t) :=
  keyed_bind fun _ _ => keyed_bind fun _ made => keyed_some (keyed_fitInteger made)

theorem keyed_readDecimal (negative : Bool) (t : List Char) : Keyed (readDecimal negative t) := by
  refine keyed_bind fun (whole, t) _ => ?_
  dsimp only
  split
  · exact keyed_none
  · split
    · exact keyed_bind fun _ _ => keyed_finishFloat _ _ _ _
    · split
      · exact keyed_finishFloat _ _ _ _
      · exact keyed_bind fun _ made => keyed_some (keyed_fitInteger made)

theorem keyed_readSigned (negative : Bool) (t : List Char) : Keyed (readSigned negative t) := by
  unfold readSigned
  split
  · exact keyed_some (.float _)
  · exact keyed_some (.float _)
  · exact keyed_readDecimal _ _

theorem keyed_readNumber (t : List Char) : Keyed (readNumber t) := by
  unfold readNumber
  split
  · exact keyed_readRadix _ _ _
  · exact keyed_readRadix _ _ _
  · exact keyed_readRadix _ _ _
  · exact keyed_readSigned _ _
  · exact keyed_readSigned _ _
  · exact keyed_readSigned _ _

theorem keyed_readNumeral (t : List Char) : Keyed (readNumeral t) := by
  unfold readNumeral
  split
  · exact keyed_bind fun _ _ => keyed_bind fun _ _ => keyed_some .moment
  · split
    · exact keyed_bind fun _ _ => keyed_some .moment
    · exact keyed_readNumber t

section Nested

variable {depth : Nat} (inner : ∀ fuel t, Keyed (readValue depth fuel t))
include inner

theorem keyed_readItems {fuel : Nat} {t u : List Char} {vs : List Value}
    (h : readValue.readItems depth fuel t = some (vs, u)) : ∀ v ∈ vs, v.Keyed := by
  induction fuel generalizing t vs u with
  | zero => simp [readValue.readItems] at h
  | succ fuel ih =>
    rw [readValue.readItems] at h
    obtain ⟨t, -, h⟩ := Option.bind_eq_some_iff.mp h
    split at h
    · cases h; simp
    · obtain ⟨⟨v, t⟩, first, h⟩ := Option.bind_eq_some_iff.mp h
      obtain ⟨t, -, h⟩ := Option.bind_eq_some_iff.mp h
      have keyed := inner _ _ v _ first
      split at h
      · cases h; simpa using keyed
      · obtain ⟨⟨rest, t⟩, more, h⟩ := Option.bind_eq_some_iff.mp h
        cases h
        simpa [keyed] using ih more
      · cases h

theorem keyed_readBraced {fuel : Nat} {t u : List Char} {l : List (List String × Value)}
    (h : readValue.readBraced depth fuel t = some (l, u)) : ∀ a ∈ l, a.2.Keyed := by
  induction fuel generalizing t l u with
  | zero => simp [readValue.readBraced] at h
  | succ fuel ih =>
    rw [readValue.readBraced] at h
    obtain ⟨⟨key, t⟩, -, h⟩ := Option.bind_eq_some_iff.mp h
    dsimp only at h
    split at h
    · obtain ⟨⟨v, t⟩, first, h⟩ := Option.bind_eq_some_iff.mp h
      have keyed := inner _ _ v _ first
      dsimp only at h
      split at h
      · cases h; simpa using keyed
      · obtain ⟨⟨rest, t⟩, more, h⟩ := Option.bind_eq_some_iff.mp h
        cases h
        intro a mem
        rcases List.mem_cons.mp mem with rfl | later
        · exact keyed
        · exact ih more a later
      · cases h
    · cases h

end Nested

theorem keyed_ofBraces {l : List (List String × Value)} {v : Value} (each : ∀ a ∈ l, a.2.Keyed)
    (made : Tree.ofBraces l = some v) : v.Keyed := by
  obtain ⟨t, assigned, rfl⟩ := Option.map_eq_some_iff.mp made
  exact ((Tree.keyed_blank _ _).assignAll each assigned).toValue

theorem keyed_readValue (depth fuel : Nat) (t : List Char) : Keyed (readValue depth fuel t) := by
  induction depth generalizing fuel t with
  | zero => rw [readValue]; exact keyed_none
  | succ depth inner =>
    rw [readValue]
    dsimp only
    split
    · exact keyed_bind fun _ _ => keyed_some (.text _)
    · exact keyed_bind fun _ _ => keyed_some (.text _)
    · split
      · exact keyed_none
      · exact keyed_bind fun _ found => keyed_some (.list (keyed_readItems inner found))
    · split
      · exact keyed_none
      · split
        · exact keyed_some (.table List.nodup_nil (by simp))
        · exact keyed_bind fun _ found => keyed_bind fun _ made =>
            keyed_some (keyed_ofBraces (keyed_readBraced inner found) made)
    · exact keyed_some (.boolean _)
    · exact keyed_some (.boolean _)
    · exact keyed_readNumeral _

theorem keyed_readAssignment {t u : List Char} {a : List String × Value}
    (h : readAssignment t = some (a, u)) : a.2.Keyed := by
  obtain ⟨⟨key, t⟩, -, h⟩ := Option.bind_eq_some_iff.mp h
  dsimp only at h
  split at h
  · obtain ⟨⟨v, t⟩, found, h⟩ := Option.bind_eq_some_iff.mp h
    dsimp only at h
    obtain ⟨⟨_, u⟩, -, h⟩ := Option.bind_eq_some_iff.mp h
    cases h
    exact keyed_readValue _ _ _ v t found
  · cases h

theorem keyed_readSections {fuel : Nat} {header : Header} {seen : List (List String × Value)}
    {t : List Char} {sections : List Section} (before : ∀ a ∈ seen, a.2.Keyed)
    (h : readSections fuel header seen t = some sections) :
    ∀ s ∈ sections, ∀ a ∈ s.assignments, a.2.Keyed := by
  induction fuel generalizing header seen t sections with
  | zero => cases h
  | succ fuel ih =>
    rw [readSections] at h
    split at h
    · cases h
      simpa using before
    · obtain ⟨⟨next, t⟩, -, h⟩ := Option.bind_eq_some_iff.mp h
      obtain ⟨rest, more, h⟩ := Option.bind_eq_some_iff.mp h
      cases h
      intro s mem
      rcases List.mem_cons.mp mem with rfl | later
      · simpa using before
      · exact ih (by simp) more s later
    · split at h
      · obtain ⟨⟨_, t⟩, -, h⟩ := Option.bind_eq_some_iff.mp h
        exact ih before h
      · obtain ⟨⟨a, t⟩, found, h⟩ := Option.bind_eq_some_iff.mp h
        refine ih (fun b mem => ?_) h
        rcases List.mem_cons.mp mem with rfl | earlier
        · exact keyed_readAssignment found
        · exact before b earlier

theorem Tree.Keyed.enter {s : Section} {t u : Tree} (keyed : t.Keyed)
    (new : ∀ a ∈ s.assignments, a.2.Keyed) (entered : s.enter t = some u) : u.Keyed := by
  unfold Section.enter at entered
  split at entered
  · exact keyed.assignAll new entered
  · exact keyed.define new entered
  · exact keyed.append new entered

/-- A document is a table in which, at every depth, each key stands once. -/
theorem parse_keyed {text : String} {doc : Value} (h : parse text = some doc) :
    doc.Keyed ∧ ∃ entries, doc = .table entries := by
  obtain ⟨sections, read, h⟩ := Option.bind_eq_some_iff.mp h
  obtain ⟨tree, entered, made⟩ := Option.bind_eq_some_iff.mp h
  cases made
  have each := keyed_readSections (by simp) read
  refine ⟨?_, ?_⟩
  · suffices ∀ t : Tree, t.Keyed → sections.foldlM (fun t s => s.enter t) t = some tree →
        tree.Keyed from (this _ (Tree.keyed_blank _ _) entered).toValue
    clear read entered h
    induction sections with
    | nil => intro t keyed h; cases h; exact keyed
    | cons s sections ih =>
      intro t keyed h
      obtain ⟨u, first, rest⟩ := Option.bind_eq_some_iff.mp h
      exact ih (fun r mem => each r (List.mem_cons_of_mem s mem)) u
        (keyed.enter (each s List.mem_cons_self) first) rest
  · obtain ⟨opened, dotted, entries⟩ := tree
    exact ⟨_, rfl⟩

end ComponentHost.Toml
