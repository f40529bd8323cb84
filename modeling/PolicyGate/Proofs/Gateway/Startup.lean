import PolicyGate.Gateway.Serve
import PolicyGate.Proofs.Calendar.Formats

/-!
What the checks of a configuration are good for. With a checked configuration the gateway starts and can
show every row, but for two settings that the checks let pass.
-/
namespace PolicyGate

open Outcomes

namespace Listener

variable {l : Listener}

theorem allowedOrigin_ok {given origin : String} (allowed : allowedOrigin given = .ok origin) :
    Text.trim given = origin := by
  unfold allowedOrigin at allowed
  dsimp only at allowed
  split at allowed <;> cases allowed
  rfl

theorem allowedOrigins_ok {origins : List String} (allowed : l.allowedOrigins = .ok origins) :
    l.origins.map Text.trim = origins := by
  have each := (mapM_ok.mp allowed).imp fun _ _ => allowedOrigin_ok
  rwa [← List.forall₂_map_left_iff, List.forall₂_eq_eq_eq] at each

theorem check_ok : l.check = .ok () ↔
    (∃ address, l.address = .ok address) ∧ ∃ origins, l.allowedOrigins = .ok origins := by
  unfold check
  cases l.address <;> cases l.allowedOrigins <;> simp [bind, Except.bind, pure, Except.pure]

theorem originPolicy_ok {origins : List String} (allowed : l.allowedOrigins = .ok origins) :
    ∃ policy, l.originPolicy = .ok policy ∧
      (policy.isSome = true ↔ ∀ origin ∈ l.origins, Text.trim origin ≠ "*") := by
  unfold originPolicy
  split
  · rename_i free
    have none := List.isEmpty_iff.mp free
    exact ⟨_, rfl, by simp [none]⟩
  · have plain : "*" ∉ origins ↔ ∀ origin ∈ l.origins, Text.trim origin ≠ "*" := by
      simp [← allowedOrigins_ok allowed]
    rw [allowed]
    refine ⟨_, rfl, ?_⟩
    rw [← plain]
    by_cases listed : "*" ∈ origins <;> simp [listed]

end Listener

theorem ServiceConfig.check_ok {c : ServiceConfig} (checked : c.check = .ok ()) :
    c.listener.check = .ok () ∧ (DateFormat.read? c.dateFormat).isSome = true := by
  unfold check at checked
  dsimp only at checked
  -- The secret, the prefix and the names of the collections come first.
  iterate 3
    split at checked
    · cases checked
  obtain ⟨_, listens, checked⟩ := bind_ok.mp checked
  refine ⟨mapError_ok.mp listens, ?_⟩
  split at checked
  · cases checked
  · rename_i readable
    exact Option.isSome_iff_ne_none.mpr (by simpa using readable)

namespace Gateway

theorem isSome_renderField? {dateFormat : String}
    (readable : (DateFormat.read? dateFormat).isSome = true) (v : Value) :
    (renderField? dateFormat v).isSome = true ↔
      (DateFormat.Unwritable dateFormat → ∀ t, v ≠ .date t) := by
  cases v with
  | date t =>
    rw [renderField?, Option.isSome_map, DateFormat.render?_isSome readable]
    simp
  | _ => simp [renderField?]

theorem isSome_renderRow? (dateFormat : String) (row : Document) :
    (renderRow? dateFormat row).isSome = true ↔
      ∀ field v, (field, v) ∈ row → field ≠ idField →
        (renderField? dateFormat v).isSome = true := by
  rw [renderRow?, isSome_return, isSome_mapM, List.all_eq_true]
  simp only [List.mem_filter, isSome_return, Prod.forall, and_imp, bne_iff_ne]

/-- A gateway with a checked configuration starts, unless `*` is listed as an origin. It shows every row,
unless a date is to be shown in a format that is only for reading dates. -/
theorem checked_config_serves {c : ServiceConfig} (checked : c.check = .ok ()) (backend : Backend) :
    (∃ server?, Server.ofConfig c backend = .ok server? ∧
      (server?.isSome = true ↔ ∀ origin ∈ c.listener.origins, Text.trim origin ≠ "*")) ∧
    ∀ row, (∃ x, renderRow? c.dateFormat row = some x) ↔
      (DateFormat.Unwritable c.dateFormat →
        ∀ field t, (field, Value.date t) ∈ row → field = idField) := by
  obtain ⟨listens, readable⟩ := ServiceConfig.check_ok checked
  obtain ⟨⟨address, found⟩, origins, allowed⟩ := Listener.check_ok.mp listens
  obtain ⟨policy, made, policed⟩ := Listener.originPolicy_ok allowed
  refine ⟨⟨_, bind_ok.mpr ⟨address, found, bind_ok.mpr ⟨policy, made, rfl⟩⟩, ?_⟩, fun row => ?_⟩
  · rw [← policed, Option.isSome_map]
  · rw [← Option.isSome_iff_exists, isSome_renderRow?]
    simp only [isSome_renderField? readable]
    constructor
    · intro shown unwritable field t member
      by_contra other
      exact shown field _ member other unwritable t rfl
    · rintro only field v member other unwritable t rfl
      exact other (only unwritable field t member)

/-- A row with an instant in a field that is shown. -/
def enrolled : Document := [("since", .date ⟨1619861400, 0⟩)]

def localConfig : ServiceConfig :=
  { listener := { host := " LocalHost ", origins := [" https://a.example "] } }

theorem checked_config_serves_local :
    localConfig.check = .ok () ∧
      (∃ server, Server.ofConfig localConfig ({} : Store).backend = .ok (some server)) ∧
      ∃ x, renderRow? localConfig.dateFormat enrolled = some x := by
  have checked : localConfig.check = .ok () := rfl
  obtain ⟨⟨server?, made, starts⟩, shows⟩ := checked_config_serves checked ({} : Store).backend
  have origins : ∀ origin ∈ localConfig.listener.origins, Text.trim origin ≠ "*" := by decide +kernel
  obtain ⟨server, rfl⟩ := Option.isSome_iff_exists.mp (starts.mpr origins)
  have writable : ¬ DateFormat.Unwritable localConfig.dateFormat :=
    (DateFormat.render?_isSome rfl ⟨0, 0⟩).mp (by decide +kernel)
  exact ⟨checked, ⟨server, made⟩, (shows enrolled).mpr fun unwritable => absurd unwritable writable⟩

def wildcardConfig : ServiceConfig := { listener := { origins := ["*"] } }

def looseConfig : ServiceConfig := { dateFormat := "%#z" }

/-- A listed `*` keeps the gateway from starting, and `%#z` keeps it from showing dates. -/
theorem checked_config_fails :
    (wildcardConfig.check = .ok () ∧
      ∀ backend, Server.ofConfig wildcardConfig backend = .ok none) ∧
    looseConfig.check = .ok () ∧ renderRow? looseConfig.dateFormat enrolled = none :=
  ⟨⟨rfl, fun _ => rfl⟩, rfl, rfl⟩

end Gateway
end PolicyGate
