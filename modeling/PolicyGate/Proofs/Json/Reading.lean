import PolicyGate.Json.Skim
import PolicyGate.Proofs.Json.Scanning

/-!
A text is read as the tree that it was written from.
-/
namespace PolicyGate.Json

/-- The trees that their texts give back: brackets nest at most `levels` deep, integers have 64 bits, no
object has a name twice, and there are no doubles. -/
inductive Legible : (levels : Nat) → Json → Prop where
  | null {levels : Nat} : Legible levels .null
  | bool {levels : Nat} (b : Bool) : Legible levels (.bool b)
  | int {levels : Nat} {n : Int} :
      Int64.minValue.toInt ≤ n → n ≤ greatestSignificand → Legible levels (.int n)
  | string {levels : Nat} (s : String) : Legible levels (.string s)
  | array {levels : Nat} {items : List Json} :
      (∀ x ∈ items, Legible levels x) → Legible (levels + 1) (.array items)
  | object {levels : Nat} {members : List (String × Json)} :
      Fields.Distinct members → (∀ entry ∈ members, Legible levels entry.2) →
        Legible (levels + 1) (.object members)

/-- The reader reads the text of a value as that value, whatever stands behind it. -/
def Reads (read : Input → Outcome Json) (x : Json) : Prop :=
  ∀ rest, Ends rest → read (x.chars.map some ++ rest) = .ok (x, rest)

theorem skipBlanks_cons {c : Option Char} (visible : isBlank c = false) (rest : Input) :
    skipBlanks (c :: rest) = c :: rest :=
  List.dropWhile_cons_of_neg (by simp [visible])

/-- The text of a value begins with the value itself: not with a blank, and not with a bracket that
closes the list before it. -/
theorem chars_eq_cons {levels : Nat} {x : Json} (legible : Legible levels x) :
    ∃ c text, x.chars = c :: text ∧ isBlank (some c) = false ∧ c ≠ ']' := by
  cases legible with
  | null => exact ⟨_, _, rfl, rfl, by decide⟩
  | bool b => cases b <;> exact ⟨_, _, rfl, rfl, by decide⟩
  | @int _ n =>
    rw [chars, Text.signedDecimal]
    split
    · exact ⟨_, _, rfl, rfl, by decide⟩
    · obtain ⟨k, digits, small, shown⟩ := decimal_eq_cons n.natAbs
      have each : ∀ k : Fin 10, isBlank (some (Nat.digitChar k)) = false ∧ Nat.digitChar k ≠ ']' := by
        decide
      exact ⟨_, _, shown, each ⟨k, small⟩⟩
  | string s => exact ⟨_, _, rfl, rfl, by decide⟩
  | @array _ items => cases items <;> exact ⟨_, _, rfl, rfl, by decide⟩
  | @object _ members =>
    cases members <;> exact ⟨_, _, rfl, rfl, by decide⟩

theorem ends_itemChars (items : List Json) (rest : Input) :
    Ends ((itemChars items).map some ++ rest) := by
  cases items
  · exact .inr ⟨_, _, rfl, .inr (.inl rfl)⟩
  · exact .inr ⟨_, _, rfl, .inl rfl⟩

theorem length_itemChars (items : List Json) : items.length < (itemChars items).length := by
  induction items with
  | nil => exact Nat.one_pos
  | cons x rest ih =>
    rw [itemChars, List.length_append, List.length_cons, List.length_cons]
    omega

theorem items_last {read : Input → Outcome Json} {s rest : Input} {x : Json}
    (found : read s = .ok (x, some ']' :: rest)) (fuel : Nat) (earlier : List Json) :
    items read (fuel + 1) earlier s = .ok (.array (x :: earlier).reverse, rest) := by
  rw [items, found]
  rfl

theorem items_more {read : Input → Outcome Json} {s rest : Input} {x : Json} {c : Char}
    (found : read s = .ok (x, some ',' :: some c :: rest)) (visible : isBlank (some c) = false)
    (other : c ≠ ']') (fuel : Nat) (earlier : List Json) :
    items read (fuel + 1) earlier s = items read fuel (x :: earlier) (some c :: rest) := by
  have comma : skipBlanks (some ',' :: some c :: rest) = some ',' :: some c :: rest :=
    skipBlanks_cons rfl _
  have next : skipBlanks (some c :: rest) = some c :: rest := skipBlanks_cons visible rest
  rw [items, found]
  dsimp only
  rw [comma]
  split
  · rename_i none
    cases none
  · rename_i closing
    cases closing
  · rename_i same
    cases same
    rw [next]
    split
    · rename_i none
      cases none
    · rename_i closing
      cases closing
      exact absurd rfl other
    · rfl
  · rename_i noComma
    exact absurd rfl (noComma _)

theorem items_chars {read : Input → Outcome Json} {levels : Nat} {x : Json} {items : List Json}
    (legible : ∀ y ∈ x :: items, Legible levels y) (reads : ∀ y ∈ x :: items, Reads read y)
    {fuel : Nat} (enough : items.length < fuel) (earlier : List Json) (rest : Input) :
    Json.items read fuel earlier ((x.chars ++ itemChars items).map some ++ rest) =
      .ok (.array (earlier.reverse ++ x :: items), rest) := by
  induction items generalizing x fuel earlier with
  | nil =>
    cases fuel with
    | zero => exact absurd enough (Nat.not_lt_zero _)
    | succ fuel =>
      have found := reads x List.mem_cons_self _ (ends_itemChars [] rest)
      rw [List.map_append, List.append_assoc, items_last found, List.reverse_cons]
      rfl
  | cons y items ih =>
    cases fuel with
    | zero => exact absurd enough (Nat.not_lt_zero _)
    | succ fuel =>
      have legible' : ∀ z ∈ y :: items, Legible levels z :=
        fun z member => legible z (List.mem_cons_of_mem x member)
      have later := ih legible' (fun z member => reads z (List.mem_cons_of_mem x member))
        (Nat.lt_of_succ_lt_succ enough) (x :: earlier)
      obtain ⟨c, text, begins, visible, other⟩ := chars_eq_cons (legible' y List.mem_cons_self)
      have found := reads x List.mem_cons_self _ (ends_itemChars (y :: items) rest)
      rw [itemChars, begins] at found
      rw [begins] at later
      rw [itemChars, begins, List.map_append, List.append_assoc]
      rw [items_more found visible other]
      rw [List.reverse_cons, List.append_assoc] at later
      exact later

theorem arrayBody_cons {c : Char} (visible : isBlank (some c) = false) (other : c ≠ ']')
    (read : Input → Outcome Json) (rest : Input) :
    arrayBody read (some c :: rest) = items read (rest.length + 1) [] (some c :: rest) := by
  rw [arrayBody, skipBlanks_cons visible]
  split
  · rename_i none
    cases none
  · rename_i closing
    cases closing
    exact absurd rfl other
  · rfl

theorem arrayBody_chars {read : Input → Outcome Json} {levels : Nat} {x : Json} {items : List Json}
    (legible : ∀ y ∈ x :: items, Legible levels y) (reads : ∀ y ∈ x :: items, Reads read y)
    (rest : Input) :
    arrayBody read ((x.chars ++ itemChars items).map some ++ rest) =
      .ok (.array (x :: items), rest) := by
  obtain ⟨c, text, begins, visible, other⟩ := chars_eq_cons (legible x List.mem_cons_self)
  have enough : items.length < ((text ++ itemChars items).map some ++ rest).length + 1 := by
    have longer := length_itemChars items
    simp only [List.length_append, List.length_map]
    omega
  have found := items_chars legible reads enough [] rest
  rw [begins] at found ⊢
  exact (arrayBody_cons visible other read _).trans found

theorem ends_memberChars (members : List (String × Json)) (rest : Input) :
    Ends ((memberChars members).map some ++ rest) := by
  cases members
  · exact .inr ⟨_, _, rfl, .inr (.inr rfl)⟩
  · exact .inr ⟨_, _, rfl, .inl rfl⟩

theorem length_memberChars (members : List (String × Json)) :
    members.length < (memberChars members).length := by
  induction members with
  | nil => exact Nat.one_pos
  | cons entry rest ih =>
    rw [memberChars, List.length_append, List.length_cons]
    simp only [List.length_append, List.length_cons]
    omega

/-- What stands between the quote that opens the name of a member and the next member. -/
def memberText (name : String) (x : Json) : List Char :=
  name.toList.flatMap escapeChar ++ '"' :: ':' :: x.chars

theorem chars_object_cons (name : String) (x : Json) (members : List (String × Json)) :
    (Json.object ((name, x) :: members)).chars =
      '{' :: '"' :: memberText name x ++ memberChars members := by
  simp [chars, quote, memberText]

theorem memberChars_cons (name : String) (x : Json) (members : List (String × Json)) :
    memberChars ((name, x) :: members) = ',' :: '"' :: memberText name x ++ memberChars members := by
  simp [memberChars, quote, memberText]

variable {member : Fields Json → String → Input → Outcome (Fields Json)}

/-- Behind the name of an entry the reader of members reads its value, and adds the entry. -/
def Adds (member : Fields Json → String → Input → Outcome (Fields Json)) (entry : String × Json) :
    Prop :=
  ∀ made, entry.1 ∉ Fields.keys made → ∀ rest, Ends rest →
    member made entry.1 (some ':' :: entry.2.chars.map some ++ rest) = .ok (made ++ [entry], rest)

theorem Adds.value {name : String} {x : Json} (adds : Adds member (name, x)) {made : Fields Json}
    (fresh : name ∉ made.keys) {rest : Input} (ends : Ends rest) :
    ∃ after, stringBody ((memberText name x).map some ++ rest) = .ok (name, after) ∧
      member made name after = .ok (made ++ [(name, x)], rest) := by
  refine ⟨_, ?_, adds made fresh rest ends⟩
  rw [memberText, List.map_append, List.append_assoc]
  exact stringBody_escaped name _

theorem members_last {made next : Fields Json} {s after rest : Input} {name : String}
    (named : stringBody s = .ok (name, after))
    (found : member made name after = .ok (next, some '}' :: rest)) (fuel : Nat) :
    members member (fuel + 1) made (some '"' :: s) = .ok (next, rest) := by
  rw [members, named]
  dsimp only
  rw [found]
  rfl

theorem members_more {made next : Fields Json} {s after rest : Input} {name : String}
    (named : stringBody s = .ok (name, after))
    (found : member made name after = .ok (next, some ',' :: some '"' :: rest)) (fuel : Nat) :
    members member (fuel + 1) made (some '"' :: s) = members member fuel next (some '"' :: rest) := by
  rw [members, named]
  dsimp only
  rw [found]
  rfl

theorem members_chars {name : String} {x : Json} {entries : List (String × Json)}
    (adds : ∀ entry ∈ (name, x) :: entries, Adds member entry) {made : Fields Json}
    (distinct : Fields.Distinct (made ++ (name, x) :: entries)) {fuel : Nat}
    (enough : entries.length < fuel) (rest : Input) :
    members member fuel made
        (some '"' :: ((memberText name x ++ memberChars entries).map some ++ rest)) =
      .ok (made ++ (name, x) :: entries, rest) := by
  have fresh : name ∉ made.keys := distinct.not_mem_keys
  induction entries generalizing name x made fuel with
  | nil =>
    cases fuel with
    | zero => exact absurd enough (Nat.not_lt_zero _)
    | succ fuel =>
      obtain ⟨after, named, found⟩ :=
        (adds _ List.mem_cons_self).value fresh (ends_memberChars [] rest)
      rw [List.map_append, List.append_assoc]
      exact members_last named found fuel
  | cons entry entries ih =>
    obtain ⟨nextName, y⟩ := entry
    cases fuel with
    | zero => exact absurd enough (Nat.not_lt_zero _)
    | succ fuel =>
      have spread : made ++ (name, x) :: (nextName, y) :: entries =
          made ++ [(name, x)] ++ (nextName, y) :: entries := by simp
      rw [spread] at distinct ⊢
      obtain ⟨after, named, found⟩ :=
        (adds _ List.mem_cons_self).value fresh (ends_memberChars ((nextName, y) :: entries) rest)
      rw [memberChars_cons] at found named
      rw [List.map_append, List.append_assoc, memberChars_cons, members_more named found]
      exact ih (fun entry member => adds entry (List.mem_cons_of_mem _ member)) distinct
        (Nat.lt_of_succ_lt_succ enough) distinct.not_mem_keys

theorem objectBody_chars {name : String} {x : Json} {entries : List (String × Json)}
    (adds : ∀ entry ∈ (name, x) :: entries, Adds member entry)
    (distinct : Fields.Distinct ((name, x) :: entries)) (rest : Input) :
    objectBody member []
        (some '"' :: ((memberText name x ++ memberChars entries).map some ++ rest)) =
      .ok ((name, x) :: entries, rest) := by
  have enough : entries.length <
      (some '"' :: ((memberText name x ++ memberChars entries).map some ++ rest)).length := by
    have longer := length_memberChars entries
    simp only [List.length_cons, List.length_append, List.length_map]
    omega
  exact @members_chars member name x entries adds [] distinct _ enough rest

theorem insertMember_adds {read : Input → Outcome Json} {entry : String × Json}
    (reads : Reads read entry.2) : Adds (insertMember read) entry := by
  intro made fresh rest ends
  have found := reads rest ends
  change (read (entry.2.chars.map some ++ rest)).map _ = _
  rw [found]
  change Except.ok (Fields.insert entry.1 entry.2 made, rest) = _
  rw [Fields.insert_of_not_mem fresh]

theorem value_leaf (levels : Nat) : ∃ inner, value levels = valueWith inner := by
  cases levels <;> exact ⟨_, rfl⟩

theorem value_reads {levels : Nat} {x : Json} (legible : Legible levels x) :
    Reads (value levels) x := by
  induction legible with
  | @null levels =>
    intro rest _
    obtain ⟨inner, same⟩ := value_leaf levels
    rw [same]
    rfl
  | @bool levels b =>
    intro rest _
    obtain ⟨inner, same⟩ := value_leaf levels
    rw [same]
    cases b <;> rfl
  | @int levels n low high =>
    intro rest ends
    obtain ⟨inner, same⟩ := value_leaf levels
    rw [same]
    exact valueWith_signedDecimal inner low high ends
  | @string levels s =>
    intro rest _
    obtain ⟨inner, same⟩ := value_leaf levels
    rw [same, chars, quote, List.map_append, List.append_assoc]
    change (stringBody ((s.toList.flatMap escapeChar).map some ++ some '"' :: rest)).map _ = _
    rw [stringBody_escaped]
    rfl
  | @array levels items legible reads =>
    intro rest _
    cases items with
    | nil => rfl
    | cons x items => exact arrayBody_chars legible reads rest
  | @object levels members distinct legible reads =>
    intro rest _
    cases members with
    | nil => rfl
    | cons entry entries =>
      have adds : ∀ e ∈ entry :: entries, Adds (insertMember (value levels)) e :=
        fun e member => insertMember_adds (reads e member)
      rw [chars_object_cons]
      change (objectBody (insertMember (value levels)) []
        (some '"' :: ((memberText entry.1 entry.2 ++ memberChars entries).map some ++ rest))).map _ = _
      rw [objectBody_chars adds distinct]
      rfl

theorem knownMember_adds {reader? : String → Option (Input → Outcome Json)}
    {read : Input → Outcome Json} {entry : String × Json} (known : reader? entry.1 = some read)
    (reads : Reads read entry.2) : Adds (knownMember reader?) entry := by
  intro made fresh rest ends
  have new : made.contains entry.1 = false := by
    rw [Fields.contains, Fields.get?_eq_none.mpr fresh]
    rfl
  rw [knownMember, known]
  dsimp only
  rw [new]
  exact insertMember_adds reads made fresh rest ends

/-- An object all of whose members are known is read as it was written. -/
theorem readKnown_chars {reader? : String → Option (Input → Outcome Json)} {entries : Fields Json}
    (adds : ∀ entry ∈ entries, Adds (knownMember reader?) entry) (distinct : entries.Distinct) :
    readKnown reader? ((Json.object entries).chars.map some) = .ok entries := by
  cases entries with
  | nil => rfl
  | cons entry entries =>
    obtain ⟨name, x⟩ := entry
    have found := objectBody_chars adds distinct []
    rw [List.append_nil] at found
    rw [chars_object_cons]
    change (objectBody (knownMember reader?) []
      (some '"' :: (memberText name x ++ memberChars entries).map some)).bind
        (fun read => finish read.1 read.2) = _
    rw [found]
    rfl

/-- Reading undoes writing. -/
theorem read_text {x : Json} (legible : Legible nestingLimit x) : read x.text = .ok x := by
  have found := value_reads legible [] (.inl rfl)
  rw [List.append_nil] at found
  rw [read, text, Input.ofString, String.toList_ofList, readInput, found]
  rfl

end PolicyGate.Json
