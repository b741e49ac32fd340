import ComponentHost.Proofs.Config.Schema
import ComponentHost.Proofs.Toml.Keys
import ComponentHost.Toml.Decode
import Mathlib.Data.List.Forall2

/-! What a table gives a record. Where no key stands twice, the entries can be looked at in any
order and each field has only its own key to do with: it takes what stands there, or falls back. -/

namespace ComponentHost.Toml

def Value.get? : Value → String → Option Value
  | .table entries, key => entries.lookup key
  | _, _ => none

theorem Value.Keyed.get? {t v : Value} {key : String} (keyed : t.Keyed)
    (found : t.get? key = some v) : v.Keyed := by
  cases keyed with
  | table once each =>
    obtain ⟨front, back, rfl, -⟩ := List.lookup_eq_some_iff.mp found
    exact each (key, v) (by simp)
  | _ => cases found

/-! ### Lists, item by item -/

section List

variable {α β γ : Type} {R S : α → β → Prop} {l : List α} {xs : List β}

theorem mapM_ok_iff {ε : Type} {f : α → Except ε β} {r : List β} :
    l.mapM f = .ok r ↔ List.Forall₂ (fun a b => f a = .ok b) l r := by
  induction l generalizing r with
  | nil => cases r <;> simp [pure, Except.pure]
  | cons a l ih =>
    rw [List.mapM_cons]
    cases here : f a with
    | error e => cases r <;> simp [bind, Except.bind, here]
    | ok b =>
      cases there : l.mapM f with
      | error e => cases r <;> simp [bind, Except.bind, ← ih, here, there]
      | ok bs => cases r <;> simp [bind, Except.bind, pure, Except.pure, ← ih, here, there]

theorem forall₂_map_iff {g : β → γ} {cs : List γ} :
    (∃ xs, List.Forall₂ R l xs ∧ xs.map g = cs) ↔
      List.Forall₂ (fun a c => ∃ x, R a x ∧ g x = c) l cs := by
  constructor
  · rintro ⟨xs, each, rfl⟩
    exact List.forall₂_map_right_iff.mpr (each.imp fun _ x r => ⟨x, r, rfl⟩)
  · intro each
    induction each with
    | nil => exact ⟨[], .nil, rfl⟩
    | cons head _ ih =>
      obtain ⟨x, here, rfl⟩ := head
      obtain ⟨xs, there, rfl⟩ := ih
      exact ⟨x :: xs, .cons here there, rfl⟩

theorem exists_forall₂_iff :
    (∃ xs, List.Forall₂ R l xs) ↔ ∀ a ∈ l, ∃ x, R a x := by
  constructor
  · rintro ⟨xs, each⟩
    induction each with
    | nil => simp
    | cons head _ ih => exact List.forall_mem_cons.mpr ⟨⟨_, head⟩, ih⟩
  · intro each
    induction l with
    | nil => exact ⟨[], .nil⟩
    | cons a l ih =>
      obtain ⟨x, here⟩ := each a List.mem_cons_self
      obtain ⟨xs, there⟩ := ih fun b mem => each b (List.mem_cons_of_mem a mem)
      exact ⟨x :: xs, .cons here there⟩

theorem forall₂_congr_mem (same : ∀ a ∈ l, ∀ x, R a x ↔ S a x) :
    List.Forall₂ R l xs ↔ List.Forall₂ S l xs := by
  induction l generalizing xs with
  | nil => simp
  | cons a l ih =>
    cases xs with
    | nil => simp
    | cons x xs =>
      rw [List.forall₂_cons, List.forall₂_cons, same a List.mem_cons_self x,
        ih fun b mem => same b (List.mem_cons_of_mem a mem)]

theorem forall₂_congr_of_alike {Q : α → α → Prop} {vs ws : List α} (each : List.Forall₂ Q vs ws)
    (same : ∀ v ∈ vs, ∀ w ∈ ws, Q v w → ∀ x, R v x ↔ R w x) :
    ∀ xs, List.Forall₂ R vs xs ↔ List.Forall₂ R ws xs := by
  induction each with
  | nil => exact fun _ => Iff.rfl
  | @cons v w vs ws head _ ih =>
    intro xs
    cases xs with
    | nil => simp
    | cons x xs =>
      have others := ih (fun v mem w mem' =>
        same v (List.mem_cons_of_mem _ mem) w (List.mem_cons_of_mem _ mem')) xs
      rw [List.forall₂_cons, List.forall₂_cons,
        same v List.mem_cons_self w List.mem_cons_self head x, others]

end List

/-! ### Single values -/

section Single

variable {v : Value}

theorem fit_boolean {b : Bool} : fit .boolean v = .ok b ↔ v = .boolean b := by
  cases v <;> simp [fit, wrongType]

theorem toNat_ofInt_of_range {bits : Nat} {i : Int} (range : 0 ≤ i ∧ i < 2 ^ bits) :
    ((BitVec.ofInt bits i).toNat : Int) = i := by
  rw [BitVec.toNat_ofInt, Int.emod_eq_of_lt range.1 (by exact_mod_cast range.2),
    Int.toNat_of_nonneg range.1]

theorem fit_unsigned {bits : Nat} {word : String} {n : BitVec bits} :
    fit (.unsigned bits word) v = .ok n ↔ v = .integer n.toNat := by
  cases v with
  | integer i =>
    simp only [fit, fitUnsigned, Value.integer.injEq]
    constructor
    · intro h
      split at h
      case isTrue range =>
        cases h
        exact (toNat_ofInt_of_range range).symm
      case isFalse => cases h
    · rintro rfl
      have range : (0 : Int) ≤ n.toNat ∧ (n.toNat : Int) < 2 ^ bits :=
        ⟨Int.natCast_nonneg _, by exact_mod_cast n.isLt⟩
      rw [if_pos range]
      simp
  | _ => simp [fit, wrongType]

theorem fit_text {s : String} : fit .text v = .ok s ↔ v = .text s := by
  cases v <;> simp [fit, fitText, wrongType]

theorem fit_optionalText {o : Option String} :
    fit .optionalText v = .ok o ↔ ∃ s, v = .text s ∧ o = some s := by
  cases v <;> simp [fit, fitText, wrongType, Except.map, eq_comm]

theorem fit_items {element : Schema} {vs : List Value} {l : List element.Carrier} :
    fit (.list element) (.list vs) = .ok l ↔
      List.Forall₂ (fun v x => fit element v = .ok x) vs l := by
  simp [fit, listOf, mapM_ok_iff]

theorem fit_list {element : Schema} {l : List element.Carrier} :
    fit (.list element) v = .ok l ↔
      ∃ vs, v = .list vs ∧ List.Forall₂ (fun v x => fit element v = .ok x) vs l := by
  cases v with
  | list vs => exact fit_items.trans (by simp)
  | _ => simp [fit, listOf, wrongType]

end Single

/-! ### Records -/

/-- The draft comes of another by the entries: fields with an entry have its value, others are as
they were. -/
def Merges : (f : Fields) → List (String × Value) → f.Draft → f.Draft → Prop
  | .nil, _, _, _ => True
  | .cons key schema _ rest, entries, (v?, d), (w?, d') =>
    (match entries.lookup key with
      | none => w? = v?
      | some u => ∃ w, fit schema u = .ok w ∧ w? = some w) ∧
    Merges rest entries d d'

theorem merges_absent : (f : Fields) → {entries : List (String × Value)} → {d d' : f.Draft} →
    (∀ key ∈ f.keys, entries.lookup key = none) → (Merges f entries d d' ↔ d' = d)
  | .nil, _, _, _, _ => by simp [Merges]
  | .cons key _ _ rest, entries, (v?, d), (w?, d'), absent => by
    have others : Merges rest entries d d' ↔ d' = d := merges_absent rest
      fun k mem => absent k (List.mem_cons_of_mem key mem)
    simp only [Merges, absent key List.mem_cons_self, others, Prod.mk.injEq]

theorem fitMember_iff : (f : Fields) → f.keys.Nodup → {key : String} → {v : Value} →
    {d d' : f.Draft} → (fitMember f key v d = .ok d' ↔ Merges f [(key, v)] d d')
  | .nil, _, _, _, _, _ => by simp [fitMember, Merges]
  | .cons own schema _ rest, once, key, v, (v?, d), (w?, d') => by
    obtain ⟨fresh, once⟩ := List.nodup_cons.mp once
    by_cases same : own = key
    · subst same
      have others : Merges rest [(own, v)] d d' ↔ d' = d := merges_absent rest fun k mem => by
        have differs : (k == own) = false := by simpa using ne_of_mem_of_not_mem mem fresh
        simp [List.lookup_cons, differs]
      simp only [fitMember, if_true, Merges, List.lookup_cons, beq_self_eq_true, others]
      cases fit schema v with
      | error e => simp [bind, Except.bind]
      | ok w => simp [bind, Except.bind, eq_comm]
    · have differs : (own == key) = false := by simpa using same
      have others : fitMember rest key v d = .ok d' ↔ _ := fitMember_iff rest once
      simp only [fitMember, if_neg same, Merges, List.lookup_cons, List.lookup_nil, differs,
        ← others]
      cases fitMember rest key v d with
      | error e => simp [bind, Except.bind]
      | ok e => simp [bind, Except.bind, eq_comm]

theorem merges_cons : (f : Fields) → {key : String} → {v : Value} →
    {entries : List (String × Value)} → entries.lookup key = none → {d d' : f.Draft} →
    (Merges f ((key, v) :: entries) d d' ↔
      ∃ m, Merges f [(key, v)] d m ∧ Merges f entries m d')
  | .nil, _, _, _, _, _, _ => by simp [Merges]
  | .cons own schema _ rest, key, v, entries, fresh, (v?, d), (w?, d') => by
    have others : Merges rest ((key, v) :: entries) d d' ↔ _ := merges_cons rest fresh
    by_cases same : own = key
    · subst same
      simp only [Merges, List.lookup_cons, beq_self_eq_true, fresh, others, Prod.exists]
      constructor
      · rintro ⟨⟨w, fits, rfl⟩, m, first, later⟩
        exact ⟨some w, m, ⟨⟨w, fits, rfl⟩, first⟩, rfl, later⟩
      · rintro ⟨_, m, ⟨⟨w, fits, rfl⟩, first⟩, rfl, later⟩
        exact ⟨⟨w, fits, rfl⟩, m, first, later⟩
    · have differs : (own == key) = false := by simpa using same
      simp only [Merges, List.lookup_cons, List.lookup_nil, differs, others, Prod.exists]
      constructor
      · rintro ⟨own, m, first, later⟩
        exact ⟨v?, m, ⟨rfl, first⟩, own, later⟩
      · rintro ⟨_, m, ⟨rfl, first⟩, own, later⟩
        exact ⟨own, m, first, later⟩

theorem lookup_eq_none {entries : List (String × Value)} {key : String}
    (fresh : key ∉ entries.map Prod.fst) : entries.lookup key = none :=
  List.lookup_eq_none_iff.mpr fun e mem => by
    simpa using fun h : key = e.1 => fresh (List.mem_map.mpr ⟨e, mem, h.symm⟩)

theorem foldlM_fitMember {f : Fields} (apart : f.keys.Nodup) {entries : List (String × Value)}
    (once : (entries.map Prod.fst).Nodup) {d d' : f.Draft} :
    entries.foldlM (fun draft (key, v) => fitMember f key v draft) d = .ok d' ↔
      Merges f entries d d' := by
  induction entries generalizing d with
  | nil =>
    rw [merges_absent f fun _ _ => rfl]
    simp [pure, Except.pure, eq_comm]
  | cons e entries ih =>
    obtain ⟨key, v⟩ := e
    obtain ⟨fresh, once⟩ := List.nodup_cons.mp once
    rw [merges_cons f (lookup_eq_none fresh), List.foldlM_cons]
    simp only [← fitMember_iff f apart, ← ih once]
    cases fitMember f key v d with
    | error e => simp [bind, Except.bind]
    | ok m => simp [bind, Except.bind]

def Takes (t : Value) (key : String) (schema : Schema) (fallback : Fallback)
    (x : schema.Carrier) : Prop :=
  match t.get? key with
  | none => schema.fallback fallback = some x
  | some v => fit schema v = .ok x

def Fills : (f : Fields) → Value → f.Carrier → Prop
  | .nil, _, _ => True
  | .cons key schema fallback rest, t, (x, xs) => Takes t key schema fallback x ∧ Fills rest t xs

theorem fills_iff : (f : Fields) → {entries : List (String × Value)} → {vs : f.Carrier} →
    (Fills f (.table entries) vs ↔
      ∃ d, Merges f entries f.blank d ∧ f.complete d = .ok vs)
  | .nil, _, _ => by simp [Fills, Merges, Fields.complete]
  | .cons key schema fallback rest, entries, (v, vs) => by
    have others : Fills rest (.table entries) vs ↔ _ := fills_iff rest
    have completes : ∀ (v? : Option schema.Carrier) (d : rest.Draft),
        (Fields.cons key schema fallback rest).complete (v?, d) = .ok (v, vs) ↔
          v?.or (schema.fallback fallback) = some v ∧ rest.complete d = .ok vs := by
      intro v? d
      rw [Fields.complete]
      cases v?.or (schema.fallback fallback) <;> cases rest.complete d <;> simp
    simp only [Fills, Takes, Value.get?, others, Merges, Fields.blank, Prod.exists, completes]
    cases entries.lookup key with
    | none =>
      constructor
      · rintro ⟨falls, d, merged, done⟩
        exact ⟨none, d, ⟨rfl, merged⟩, by simpa using falls, done⟩
      · rintro ⟨_, d, ⟨rfl, merged⟩, falls, done⟩
        exact ⟨by simpa using falls, d, merged, done⟩
    | some u =>
      constructor
      · rintro ⟨fits, d, merged, done⟩
        exact ⟨some v, d, ⟨⟨v, fits, rfl⟩, merged⟩, rfl, done⟩
      · rintro ⟨_, d, ⟨⟨w, fits, rfl⟩, merged⟩, falls, done⟩
        cases falls
        exact ⟨fits, d, merged, done⟩

def IsTable (v : Value) : Prop := ∃ entries, v = .table entries ∧ (entries.map Prod.fst).Nodup

theorem isTable_nil : IsTable (.table []) := ⟨[], rfl, List.nodup_nil⟩

theorem fit_record {name : String} {f : Fields} (apart : f.keys.Nodup) {t : Value}
    (table : IsTable t) {xs : f.Carrier} :
    fit (.record name f) t = .ok xs ↔ Fills f t xs := by
  obtain ⟨entries, rfl, once⟩ := table
  simp only [fills_iff, fit, show entries? (.table entries) = some entries from rfl,
    ← foldlM_fitMember apart once]
  cases entries.foldlM (fun draft (key, v) => fitMember f key v draft) f.blank with
  | error e => simp [bind, Except.bind]
  | ok d => cases h : f.complete d <;> simp [bind, Except.bind, Except.mapError, h]

def Accepts : (f : Fields) → Value → Prop
  | .nil, _ => True
  | .cons key schema fallback rest, t => (∃ x, Takes t key schema fallback x) ∧ Accepts rest t

theorem exists_fills : (f : Fields) → {t : Value} → ((∃ xs, Fills f t xs) ↔ Accepts f t)
  | .nil, _ => ⟨fun _ => trivial, fun _ => ⟨(), trivial⟩⟩
  | .cons _ _ _ rest, t => by
    rw [Accepts, ← exists_fills rest]
    constructor
    · rintro ⟨⟨x, xs⟩, takes, fills⟩
      exact ⟨⟨x, takes⟩, xs, fills⟩
    · rintro ⟨⟨x, takes⟩, xs, fills⟩
      exact ⟨(x, xs), takes, fills⟩

theorem exists_fit_record {name : String} {f : Fields} (apart : f.keys.Nodup) {t : Value}
    (table : IsTable t) : (∃ xs, fit (.record name f) t = .ok xs) ↔ Accepts f t :=
  (exists_congr fun _ => fit_record apart table).trans (exists_fills f)

theorem fallbacks_iff : (f : Fields) → {xs : f.Carrier} →
    (f.fallbacks = some xs ↔ Fills f (.table []) xs)
  | .nil, _ => by simp [Fields.fallbacks, Fills]
  | .cons key schema fallback rest, (x, xs) => by
    have others : rest.fallbacks = some xs ↔ _ := fallbacks_iff rest
    simp only [Fills, Takes, Value.get?, List.lookup_nil, ← others, Fields.fallbacks]
    cases schema.fallback fallback <;> cases rest.fallbacks <;> simp

def Value.part (t : Value) (key : String) : Value := (t.get? key).getD (.table [])

/-- A record that falls back as a whole is what an empty table would give. -/
theorem takes_record {name : String} {f : Fields} (apart : f.keys.Nodup) {t : Value}
    {key : String} {xs : f.Carrier} :
    Takes t key (.record name f) .record xs ↔ fit (.record name f) (t.part key) = .ok xs := by
  unfold Takes Value.part
  cases t.get? key with
  | none => rw [Schema.fallback, fallbacks_iff, Option.getD_none, fit_record apart isTable_nil]
  | some v => rfl

/-! ### Documents that a shape can read -/

mutual

def Tabular : Schema → Value → Prop
  | .record _ fields, v => (∃ entries, v = .table entries) ∧ TabularFields fields v
  | .list element, v => ∀ vs, v = .list vs → ∀ x ∈ vs, Tabular element x
  | _, _ => True

def TabularFields : Fields → Value → Prop
  | .nil, _ => True
  | .cons key schema _ rest, t =>
    (∀ v, t.get? key = some v → Tabular schema v) ∧ TabularFields rest t

end

mutual

/-- Two values agree at all the keys that the shape has, whatever their order and whatever else
the tables hold. -/
def Alike : Schema → Value → Value → Prop
  | .record _ fields, v, w => AlikeFields fields v w
  | .list element, v, w =>
    v = w ∨ ∃ vs ws, v = .list vs ∧ w = .list ws ∧ List.Forall₂ (Alike element) vs ws
  | _, v, w => v = w

def AlikeFields : Fields → Value → Value → Prop
  | .nil, _, _ => True
  | .cons key schema _ rest, v, w =>
    Option.Rel (Alike schema) (v.get? key) (w.get? key) ∧ AlikeFields rest v w

end

theorem tabularFields_nil : (f : Fields) → TabularFields f (.table [])
  | .nil => trivial
  | .cons _ _ _ rest => ⟨fun _ found => (nomatch found), tabularFields_nil rest⟩

theorem isTable_of_keyed {v : Value} (keyed : v.Keyed) (table : ∃ entries, v = .table entries) :
    IsTable v := by
  obtain ⟨entries, rfl⟩ := table
  cases keyed with
  | table once _ => exact ⟨entries, rfl, once⟩

/-- A value that holds what the shape needs where it needs it, each key once. -/
structure Orderly (s : Schema) (v : Value) : Prop where
  keyed : v.Keyed
  tabular : Tabular s v

theorem Orderly.isTable {name : String} {f : Fields} {t : Value}
    (orderly : Orderly (.record name f) t) : IsTable t :=
  isTable_of_keyed orderly.keyed orderly.tabular.1

theorem Orderly.part {name : String} {f : Fields} {t : Value} {key : String} (keyed : t.Keyed)
    (tabular : ∀ v, t.get? key = some v → Tabular (.record name f) v) :
    Orderly (.record name f) (t.part key) := by
  unfold Value.part
  cases found : t.get? key with
  | none => exact ⟨.table List.nodup_nil (by simp), ⟨[], rfl⟩, tabularFields_nil f⟩
  | some v => exact ⟨keyed.get? found, tabular v found⟩

mutual

theorem fit_alike : (s : Schema) → s.legible = true → {v w : Value} → v.Keyed → w.Keyed →
    Tabular s v → Tabular s w → Alike s v w → ∀ x, fit s v = .ok x ↔ fit s w = .ok x
  | .boolean, _, _, _, _, _, _, _, alike, _ => by rw [show _ = _ from alike]
  | .unsigned _ _, _, _, _, _, _, _, _, alike, _ => by rw [show _ = _ from alike]
  | .text, _, _, _, _, _, _, _, alike, _ => by rw [show _ = _ from alike]
  | .optionalText, _, _, _, _, _, _, _, alike, _ => by rw [show _ = _ from alike]
  | .list element, legible, v, w, keyed, keyed', tabular, tabular', alike, x => by
    rcases alike with rfl | ⟨vs, ws, rfl, rfl, each⟩
    · rfl
    · have legible : element.legible = true := legible
      cases keyed with | list keyed =>
      cases keyed' with | list keyed' =>
      have tabular := tabular vs rfl
      have tabular' := tabular' ws rfl
      rw [fit_items, fit_items]
      exact forall₂_congr_of_alike each (R := fun v y => fit element v = .ok y)
        (fun v mem w mem' alike => fit_alike element legible (keyed v mem) (keyed' w mem')
          (tabular v mem) (tabular' w mem') alike) x
  | .record name fields, legible, v, w, keyed, keyed', tabular, tabular', alike, x => by
    have apart := Fields.nodup_keys (f := fields) legible
    rw [fit_record apart (isTable_of_keyed keyed tabular.1),
      fit_record apart (isTable_of_keyed keyed' tabular'.1)]
    exact fills_alike fields legible keyed keyed' tabular.2 tabular'.2 alike x

theorem fills_alike : (f : Fields) → f.legible = true → {v w : Value} → v.Keyed → w.Keyed →
    TabularFields f v → TabularFields f w → AlikeFields f v w → ∀ xs, Fills f v xs ↔ Fills f w xs
  | .nil, _, _, _, _, _, _, _, _, _ => Iff.rfl
  | .cons key schema fallback rest, legible, v, w, keyed, keyed', tabular, tabular', alike,
      (x, xs) => by
    obtain ⟨own, -, others⟩ := Fields.legible_cons legible
    refine and_congr ?_ (fills_alike rest others keyed keyed' tabular.2 tabular'.2 alike.2 xs)
    have here := alike.1
    unfold Takes
    generalize at_v : v.get? key = a, at_w : w.get? key = b at here
    cases here with
    | none => exact Iff.rfl
    | @some a b alike =>
      exact fit_alike schema own (keyed.get? at_v) (keyed'.get? at_w) (tabular.1 a at_v)
        (tabular'.1 b at_w) alike x

end

end ComponentHost.Toml
