import Mathlib.Data.List.TakeWhile
import PolicyGate.Cli.Run
import PolicyGate.Proofs.Outcomes
import PolicyGate.Proofs.Text.Utf8

/-!
A query in a request body and the same query as input of a command. Both are read alike, except that more
characters count as blank in the input than in the body.
-/
namespace PolicyGate

namespace Text

/-- Longer encodings have no blanks: their bytes are all beyond ASCII. -/
theorem all_asciiBlank_encodeChar (c : Char) :
    ((String.utf8EncodeChar c).all fun b => isAsciiBlank b.toNat) = isAsciiBlank c.toNat := by
  have code : c.val.toNat = c.toNat := rfl
  have solid {n : Nat} (high : 128 ≤ n) : isAsciiBlank n = false := by
    simp only [isAsciiBlank, Bool.or_eq_false_iff, beq_eq_false_iff_ne]
    omega
  rw [String.utf8EncodeChar, code]
  by_cases one : c.toNat ≤ 127
  · rw [if_pos one, List.all_cons, List.all_nil, Bool.and_true, toNat_byte (by omega)]
  rw [if_neg one, solid (n := c.toNat) (by omega)]
  split
  · rw [List.all_cons, toNat_byte (by omega), solid (by omega), Bool.false_and]
  split
  · rw [List.all_cons, toNat_byte (by omega), solid (by omega), Bool.false_and]
  · rw [List.all_cons, toNat_byte (by omega), solid (by omega), Bool.false_and]

theorem all_asciiBlank_encodeUtf8 (s : List Char) :
    ((encodeUtf8 s).all fun b => isAsciiBlank b.toNat) = s.all fun c => isAsciiBlank c.toNat := by
  induction s with
  | nil => rfl
  | cons c s ih =>
    rw [encodeUtf8, List.flatMap_cons, List.all_append, all_asciiBlank_encodeChar, List.all_cons]
    exact congrArg (isAsciiBlank c.toNat && ·) ih

theorem trimBy_eq_nil {drop : Char → Bool} {s : List Char} :
    trimBy drop s = [] ↔ ∀ c ∈ s, drop c = true := by
  rw [trimBy, List.reverse_eq_nil_iff, List.dropWhile_eq_nil_iff]
  constructor
  · intro rest c member
    rw [← List.takeWhile_append_dropWhile (p := drop) (l := s)] at member
    rcases List.mem_append.mp member with front | back
    · exact List.mem_takeWhile_imp front
    · exact rest c (List.mem_reverse.mpr back)
  · intro all c member
    exact all c ((List.dropWhile_sublist drop).subset (List.mem_reverse.mp member))

theorem trim_isEmpty (s : String) :
    (trim s).isEmpty = true ↔ ∀ c ∈ s.toList, isWhiteSpace c = true := by
  rw [← trimBy_eq_nil, trim]
  simp

end Text

namespace Json

/-- White space is no JSON value, however much of it is there. -/
theorem readInput_whiteSpace {s : List Char} (white : ∀ c ∈ s, Text.isWhiteSpace c = true) :
    ∃ fault, readInput (s.map some) = .error fault := by
  have stops : ∃ fault, value nestingLimit (s.map some) = .error fault := by
    rw [nestingLimit, value, valueWith]
    cases left : skipBlanks (s.map some) with
    | nil => exact ⟨_, rfl⟩
    | cons d rest =>
      have met : d ∈ s.map some := by
        apply (List.dropWhile_sublist isBlank).subset
        rw [← skipBlanks, left]
        exact List.mem_cons_self
      obtain ⟨c, member, rfl⟩ := List.mem_map.mp met
      have blank := white c member
      have digit : ¬ isDigit (some c) = true := by
        intro digit
        rw [Text.isWhiteSpace_of_isDigit digit] at blank
        cases blank
      split
      case h_9 =>
        rename_i same
        cases same
        rw [if_neg digit]
        exact ⟨_, rfl⟩
      -- No value starts with white space.
      all_goals
        rename_i same
        cases same
      all_goals
        exact absurd blank (by decide)
  obtain ⟨fault, stopped⟩ := stops
  rw [readInput, stopped]
  exact ⟨fault, rfl⟩

end Json

namespace Query

/-- A text of white space only, not all of which is blank in ASCII. -/
def UnusualBlank (s : String) : Prop :=
  (∀ c ∈ s.toList, Text.isWhiteSpace c = true) ∧
    ∃ c ∈ s.toList, Text.isAsciiBlank c.toNat = false

theorem readers_of_blank {s : String} (blank : ∀ c ∈ s.toList, Text.isAsciiBlank c.toNat = true) :
    Gateway.readQuery (Text.encodeUtf8 s.toList) = .ok none ∧ Cli.readQuery s = .ok none := by
  have white := (Text.trim_isEmpty s).mpr fun c member =>
    Text.isWhiteSpace_of_isAsciiBlank (blank c member)
  constructor
  · rw [Gateway.readQuery, Text.all_asciiBlank_encodeUtf8, if_pos (List.all_eq_true.mpr blank)]
  · rw [Cli.readQuery, if_pos white]

theorem gateway_readQuery_of_solid {s : String} {c : Char} (member : c ∈ s.toList)
    (solid : Text.isAsciiBlank c.toNat = false) :
    Gateway.readQuery (Text.encodeUtf8 s.toList) =
      ((Json.read s).map fun x => some (Value.ofJson x)).mapError .invalidBody := by
  have mixed : ¬ (s.toList.all fun c => Text.isAsciiBlank c.toNat) = true := by
    intro all
    rw [List.all_eq_true.mp all c member] at solid
    cases solid
  rw [Gateway.readQuery, Text.all_asciiBlank_encodeUtf8, if_neg mixed]
  dsimp only
  rw [Text.decodeUtf8_encodeUtf8, Json.read, Json.Input.ofString]
  cases Json.readInput (s.toList.map some) <;> rfl

theorem cli_readQuery_of_solid {s : String} {c : Char} (member : c ∈ s.toList)
    (solid : Text.isWhiteSpace c = false) :
    Cli.readQuery s =
      ((Json.read s).map fun x => some (Value.ofJson x)).mapError fun message =>
        .io ("JSON error: " ++ message) := by
  have mixed : ¬ (Text.trim s).isEmpty = true := by
    intro empty
    rw [(Text.trim_isEmpty s).mp empty c member] at solid
    cases solid
  rw [Cli.readQuery, if_neg mixed]
  cases Json.read s <;> rfl

theorem readers_of_unusual {s : String} (unusual : UnusualBlank s) :
    Cli.readQuery s = .ok none ∧
      ∃ reason, Gateway.readQuery (Text.encodeUtf8 s.toList) = .error (.invalidBody reason) := by
  obtain ⟨white, c, member, solid⟩ := unusual
  constructor
  · rw [Cli.readQuery, if_pos ((Text.trim_isEmpty s).mpr white)]
  · obtain ⟨fault, unread⟩ := Json.readInput_whiteSpace white
    rw [gateway_readQuery_of_solid member solid, Json.read, Json.Input.ofString, unread]
    exact ⟨_, rfl⟩

theorem readers_of_usual {s : String} (usual : ¬ UnusualBlank s) :
    (Gateway.readQuery (Text.encodeUtf8 s.toList)).toOption = (Cli.readQuery s).toOption ∧
      ∀ reason, Gateway.readQuery (Text.encodeUtf8 s.toList) = .error (.invalidBody reason) ↔
        Cli.readQuery s = .error (.io ("JSON error: " ++ reason)) := by
  by_cases blank : ∀ c ∈ s.toList, Text.isAsciiBlank c.toNat = true
  · obtain ⟨body, input⟩ := readers_of_blank blank
    rw [body, input]
    exact ⟨rfl, fun _ => by constructor <;> nofun⟩
  · simp only [not_forall, Bool.not_eq_true] at blank
    obtain ⟨c, member, solid⟩ := blank
    have text : ¬ ∀ c ∈ s.toList, Text.isWhiteSpace c = true := fun white =>
      usual ⟨white, c, member, solid⟩
    simp only [not_forall, Bool.not_eq_true] at text
    obtain ⟨d, inside, letter⟩ := text
    rw [gateway_readQuery_of_solid member solid, cli_readQuery_of_solid inside letter]
    cases Json.read s with
    | ok x => exact ⟨rfl, fun _ => by constructor <;> nofun⟩
    | error message => simp [Except.map, Except.mapError, Except.toOption]

/-- The gateway and the command read the same query from the same text, or both refuse it for the same
reason, unless the text is of white space only and some of it is not blank in ASCII. Such a text is no
query to the command, and to the gateway it is no JSON. -/
theorem readers_agree_iff (s : String) :
    ((Gateway.readQuery (Text.encodeUtf8 s.toList)).toOption = (Cli.readQuery s).toOption ↔
        ¬ UnusualBlank s) ∧
      (UnusualBlank s → Cli.readQuery s = .ok none ∧
        ∃ reason, Gateway.readQuery (Text.encodeUtf8 s.toList) = .error (.invalidBody reason)) ∧
      (¬ UnusualBlank s → ∀ reason,
        Gateway.readQuery (Text.encodeUtf8 s.toList) = .error (.invalidBody reason) ↔
          Cli.readQuery s = .error (.io ("JSON error: " ++ reason))) := by
  refine ⟨⟨?_, fun usual => (readers_of_usual usual).1⟩, readers_of_unusual,
    fun usual => (readers_of_usual usual).2⟩
  intro same unusual
  obtain ⟨none, reason, refused⟩ := readers_of_unusual unusual
  rw [none, refused] at same
  cases same

/-- A vertical tab is an empty query to the command only. -/
theorem lone_tab_told_apart :
    Cli.readQuery "\x0b" = .ok none ∧
      Gateway.readQuery (Text.encodeUtf8 "\x0b".toList) =
        .error (.invalidBody "expected value at line 1 column 1") :=
  ⟨rfl, Outcomes.fault?_eq_some.mp (by decide +kernel)⟩

end Query
end PolicyGate
