import ComponentHost.Json.Decode
import ComponentHost.Json.Encode
import ComponentHost.Proofs.Config.Schema
import ComponentHost.Proofs.Json.Lexical

/-! A value written by a shape is read back by it. The readers of lists and of records go through
the text by fuel, so what each makes of a written text is stated for any fuel beyond the number of
items, and for the two ways in which it meets them: from the first item on, or from a comma on. -/

namespace ComponentHost.Json

def Reads (read : Reader α) (text : List Char) (v : α) : Prop :=
  ∀ t, Ends t → read (text ++ t) = .ok (v, t)

/-! ### Single values -/

theorem reads_boolean (word : String) (b : Bool) :
    Reads (readBoolean word) (writeBoolean b) b := by
  intro t _
  cases b <;> rfl

theorem readText_writeString (word s : String) (t : List Char) :
    readText word (writeString s ++ t) = .ok (s, t) := by
  have quoted : writeString s ++ t = '"' :: (s.toList.flatMap writeChar ++ '"' :: t) := by
    simp [writeString]
  rw [quoted, readText, skipBlanks_cons (by decide)]
  exact readString_written s t

theorem reads_optionalText (word : String) (s : Option String) :
    Reads (readOptionalText word) (writeOptionalText s) s := by
  intro t _
  cases s with
  | none => rfl
  | some s =>
    have solid : skipBlanks (writeString s ++ t) = writeString s ++ t := skipBlanks_cons (by decide)
    have unlike : ∀ rest, writeString s ++ t ≠ 'n' :: rest := by simp [writeString]
    simp only [readOptionalText, writeOptionalText, solid, readText_writeString, bind, Except.bind]

theorem digit_head (n : Nat) : ∃ c rest, writeNatural n = c :: rest ∧ c.isDigit = true := by
  cases written : writeNatural n with
  | nil => exact absurd written (digits_ne_nil n)
  | cons c rest =>
    have first : c ∈ writeNatural n := written ▸ List.mem_cons_self
    exact ⟨c, rest, rfl, isDigit_of_mem_digits first⟩

theorem not_isBlank_of_isDigit {c : Char} (h : c.isDigit = true) :
    isBlank c = false ∧ c ≠ '-' ∧ c ≠ ']' := by
  refine ⟨?_, ?_, ?_⟩
  · refine Bool.eq_false_iff.mpr fun blank => ?_
    simp only [isBlank, Bool.or_eq_true, decide_eq_true_eq] at blank
    rcases blank with ((rfl | rfl) | rfl) | rfl <;> exact absurd h (by decide)
  all_goals rintro rfl; exact absurd h (by decide)

theorem reads_unsigned {bits : Nat} (fits : bits ≤ 64) (word : String) (n : BitVec bits) :
    Reads (readUnsigned bits word) (writeNatural n.toNat) n := by
  intro t ends
  have small : n.toNat ≤ maxUnsigned :=
    Nat.le_sub_one_of_lt (Nat.lt_of_lt_of_le n.isLt (Nat.pow_le_pow_right (by decide) fits))
  have read := readNumber_writeNatural small ends
  obtain ⟨c, rest, written, digit⟩ := digit_head n.toNat
  obtain ⟨solid, unsigned, _⟩ := not_isBlank_of_isDigit digit
  rw [written, List.cons_append] at read ⊢
  simp [readUnsigned, skipBlanks_cons solid, unsigned, digit, read, fitUnsigned, n.isLt, bind,
    Except.bind]

/-! ### Items in a row -/

def Opens (text : List Char) : Prop :=
  ∃ c rest, text = c :: rest ∧ isBlank c = false ∧ c ≠ ']'

theorem opens_writeSchema (s : Schema) (v : s.Carrier) : Opens (writeSchema s v) := by
  cases s with
  | boolean => cases v <;> exact ⟨_, _, rfl, by decide, by decide⟩
  | unsigned bits word =>
    obtain ⟨c, rest, written, digit⟩ := digit_head v.toNat
    obtain ⟨solid, _, open_⟩ := not_isBlank_of_isDigit digit
    exact ⟨c, rest, by rw [writeSchema, written], solid, open_⟩
  | text => exact ⟨'"', _, by rw [writeSchema, writeString, List.cons_append], by decide, by decide⟩
  | optionalText =>
    cases v with
    | none => exact ⟨_, _, rfl, by decide, by decide⟩
    | some s =>
      have written : writeSchema .optionalText (some s) = writeString s := by
        rw [writeSchema, writeOptionalText]
      exact ⟨'"', _, by rw [written, writeString, List.cons_append], by decide, by decide⟩
  | list element => exact ⟨'[', _, by rw [writeSchema, List.cons_append], by decide, by decide⟩
  | record name fields =>
    exact ⟨'\x7b', _, by rw [writeSchema, List.cons_append], by decide, by decide⟩

def following (ts : List (List Char)) : List Char := ts.flatMap (',' :: ·)

/-- Texts with commas between them and, unless they are the first items, before them. -/
def joined (first : Bool) (ts : List (List Char)) : List Char :=
  if first then separate ts else following ts

theorem separate_cons (t : List Char) (ts : List (List Char)) :
    separate (t :: ts) = t ++ following ts := by
  induction ts generalizing t with
  | nil => simp [separate, following]
  | cons u ts ih => simp [separate, following, ih u]

theorem joined_cons (first : Bool) (t : List Char) (ts : List (List Char)) :
    joined first (t :: ts) = (if first then [] else [',']) ++ (t ++ joined false ts) := by
  cases first <;> simp [joined, separate_cons, following]

theorem joined_nil (first : Bool) : joined first [] = [] := by cases first <;> rfl

theorem length_le_following (ts : List (List Char)) : ts.length ≤ (following ts).length := by
  induction ts with
  | nil => simp
  | cons t ts ih =>
    simp only [following, List.flatMap_cons, List.length_append, List.length_cons] at ih ⊢
    omega

theorem length_lt_joined (ts : List (List Char)) (c : Char) (t : List Char) :
    ts.length < (joined true ts ++ c :: t).length + 1 := by
  cases ts with
  | nil => simp
  | cons u ts =>
    have rest := length_le_following ts
    simp only [joined, if_true, separate_cons, List.length_append, List.length_cons]
    omega

theorem ends_joined {ts : List (List Char)} {t : List Char} (ends : Ends t) :
    Ends (joined false ts ++ t) := by
  cases ts with
  | nil => simpa [joined_nil] using ends
  | cons u ts => exact .comma _

theorem nextElement_joined (first : Bool) {u : List Char} (opens : Opens u)
    (us : List (List Char)) (t : List Char) :
    nextElement first (joined first (u :: us) ++ t) = .ok (true, u ++ (joined false us ++ t)) := by
  obtain ⟨c, rest, rfl, solid, open_⟩ := opens
  cases first with
  | true => simp [joined_cons, nextElement, skipBlanks_cons solid, open_]
  | false =>
    have comma : isBlank ',' = false := by decide
    simp [joined_cons, nextElement, skipBlanks_cons solid, skipBlanks_cons comma, open_]

theorem nextElement_bracket (first : Bool) (t : List Char) :
    nextElement first (']' :: t) = .ok (false, ']' :: t) := by
  simp [nextElement, skipBlanks_cons (show isBlank ']' = false by decide)]

theorem readElements_joined {read : Reader α} {write : α → List Char} {vs : List α}
    (each : ∀ v ∈ vs, Reads read (write v) v ∧ Opens (write v)) {fuel : Nat}
    (enough : vs.length < fuel) (first : Bool) (t : List Char) :
    readElements read fuel first (joined first (vs.map write) ++ ']' :: t) =
      .ok (vs, ']' :: t) := by
  induction vs generalizing fuel first with
  | nil =>
    obtain _ | fuel := fuel
    · simp at enough
    · simp [readElements, joined_nil, nextElement_bracket, bind, Except.bind]
  | cons v vs ih =>
    obtain _ | fuel := fuel
    · simp at enough
    · obtain ⟨reads, opens⟩ := each v List.mem_cons_self
      have rest := ih (fun w hw => each w (List.mem_cons_of_mem v hw)) (by simpa using enough) false
      simp only [List.map_cons, readElements, nextElement_joined first opens]
      simp [reads _ (ends_joined (.bracket t)), rest, bind, Except.bind]

theorem reads_list {read : Reader α} {write : α → List Char} {vs : List α} (word : String)
    (each : ∀ v ∈ vs, Reads read (write v) v ∧ Opens (write v)) :
    Reads (readList word read) ('[' :: separate (vs.map write) ++ [']']) vs := by
  intro t _
  have text : '[' :: separate (vs.map write) ++ [']'] ++ t =
      '[' :: (joined true (vs.map write) ++ ']' :: t) := by simp [joined]
  have enough := length_lt_joined (vs.map write) ']' t
  rw [List.length_map] at enough
  rw [text, readList, skipBlanks_cons (by decide)]
  simp only [readElements_joined each enough]
  simp [endArray, skipBlanks_cons (show isBlank ']' = false by decide), bind, Except.bind]

/-! ### Records -/

def carry (lift : α → β) (read : Reader α) : Reader β := fun t => do
  let (d, t) ← read t
  .ok (lift d, t)

theorem carry_id : (carry id : Reader α → Reader α) = id := by
  funext read t
  simp only [carry, bind, Except.bind, id]
  cases read t <;> rfl

theorem carry_carry (lift : β → γ) (own : α → β) :
    carry lift ∘ carry own = carry (lift ∘ own) := by
  funext read t
  simp only [carry, bind, Except.bind, Function.comp]
  cases read t <;> rfl

theorem nextMember_joined (first : Bool) (key : String) (u : List Char) (us : List (List Char))
    (t : List Char) :
    nextMember first (joined first ((writeString key ++ u) :: us) ++ t) =
      .ok (true, key.toList.flatMap writeChar ++ '"' :: (u ++ (joined false us ++ t))) := by
  have quote : isBlank '"' = false := by decide
  have comma : isBlank ',' = false := by decide
  cases first <;>
    simp [joined_cons, nextMember, writeString, skipBlanks_cons quote, skipBlanks_cons comma]

theorem nextMember_brace (first : Bool) (t : List Char) :
    nextMember first ('\x7d' :: t) = .ok (false, t) := by
  simp [nextMember, skipBlanks_cons (show isBlank '\x7d' = false by decide)]

theorem readMember_cons_ne {own key : String} {schema : Schema} {fallback : Fallback}
    {rest : Fields} (other : own ≠ key) (v? : Option schema.Carrier) (draft : rest.Draft) :
    readMember (.cons own schema fallback rest) key (v?, draft) =
      (readMember rest key draft).map (carry fun d => (v?, d)) := by
  rw [readMember, if_neg other]
  rfl

mutual

theorem reads_writeSchema : (s : Schema) → s.legible = true → (v : s.Carrier) →
    Reads (readSchema s) (writeSchema s v) v
  | .boolean, _, b => by simpa only [readSchema, writeSchema] using reads_boolean _ b
  | .unsigned bits word, legible, n => by
    have fits : bits ≤ 64 := by simpa [Schema.legible] using legible
    simpa only [readSchema, writeSchema] using reads_unsigned fits word n
  | .text, _, s => fun t _ => by
    simpa only [readSchema, writeSchema] using readText_writeString _ s t
  | .optionalText, _, s => by
    simpa only [readSchema, writeSchema] using reads_optionalText _ s
  | .list element, legible, vs => by
    have each : ∀ v ∈ vs, Reads (readSchema element) (writeSchema element v) v ∧
        Opens (writeSchema element v) := fun v _ =>
      ⟨reads_writeSchema element (by simpa [Schema.legible] using legible) v, opens_writeSchema _ v⟩
    simpa only [readSchema, writeSchema] using reads_list _ each
  | .record name fields, legible, vs => by
    intro t _
    have text : writeSchema (.record name fields) vs ++ t =
        '\x7b' :: (joined true (writeFields fields vs) ++ '\x7d' :: t) := by
      simp [writeSchema, joined]
    have read := readMembers_writeFields fields (by simpa [Schema.legible] using legible) vs
      (readMember fields) id (fun _ _ _ => by rw [carry_id, Option.map_id, id, id])
      (length_lt_joined _ '\x7d' t) true t
    have brace : isBlank '\x7b' = false := by decide
    rw [id, id] at read
    rw [text, readSchema]
    simp only [skipBlanks_cons brace, read, bind, Except.bind, fields.complete_full vs]
    rfl

/-- What the members of a record add to a draft. The draft may be part of a larger one, of which
the other fields are left as they are: so the rest of a record is read within the whole. -/
theorem readMembers_writeFields : (f : Fields) → f.legible = true → (vs : f.Carrier) →
    ∀ {δ : Type} (member : String → δ → Option (Reader δ)) (lift : f.Draft → δ),
    (∀ key ∈ f.keys, ∀ d, member key (lift d) = (readMember f key d).map (carry lift)) →
    ∀ {fuel : Nat}, (writeFields f vs).length < fuel → ∀ (first : Bool) (t : List Char),
    readMembers member fuel first (lift f.blank) (joined first (writeFields f vs) ++ '\x7d' :: t) =
      .ok (lift (f.full vs), t)
  | .nil, _, _, δ, member, lift, _, fuel, enough, first, t => by
    obtain _ | fuel := fuel
    · simp at enough
    · simp [readMembers, writeFields, joined_nil, nextMember_brace, Fields.blank, Fields.full, bind,
        Except.bind]
  | .cons key schema fallback rest, legible, (v, vs), δ, member, lift, agrees, fuel, enough, first,
      t => by
    obtain ⟨own, fresh, others⟩ := Fields.legible_cons legible
    obtain _ | fuel := fuel
    · simp at enough
    · have next := nextMember_joined first key (':' :: writeSchema schema v) (writeFields rest vs)
        ('\x7d' :: t)
      have ends : Ends (joined false (writeFields rest vs) ++ '\x7d' :: t) :=
        ends_joined (.brace t)
      have value := reads_writeSchema schema own v _ ends
      have tail := readMembers_writeFields rest others vs member (fun d => lift (some v, d))
        (fun k hk d => by
          have other : key ≠ k := (ne_of_mem_of_not_mem hk fresh).symm
          rw [agrees k (List.mem_cons_of_mem key hk), readMember_cons_ne other, Option.map_map,
            carry_carry]
          rfl)
        (by simpa [writeFields] using enough) false t
      have colon : isBlank ':' = false := by decide
      rw [writeFields, readMembers, next]
      simp only [bind, Except.bind, if_true, readString_written, Fields.blank,
        agrees key List.mem_cons_self]
      simp only [readMember, if_true, Option.map_some, carry, bind, Except.bind, readColon,
        List.cons_append, skipBlanks_cons colon, value, Fields.full]
      exact tail

end

/-- A value that a legible shape writes is the value that it reads in what it wrote. -/
theorem decode_encode {s : Schema} (legible : s.legible = true) (v : s.Carrier) :
    decode s (encode s v) = .ok v := by
  have read := reads_writeSchema s legible v [] .nil
  rw [List.append_nil] at read
  simp [decode, encode, finish, read, skipBlanks_nil, bind, Except.bind]

end ComponentHost.Json
