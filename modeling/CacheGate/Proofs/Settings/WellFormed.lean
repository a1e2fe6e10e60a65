import CacheGate.Proofs.Net.SocketAddr
import CacheGate.Proofs.Settings.Members

/-!
# Accepted settings are well formed

Settings that pass all checks are `WellFormed`, whatever is written and
overridden: each field is what its own check lets through. The checks see what
is left after the overrides, so what is written in an overridden field plays no
part in the outcome (`override_congr`).
-/

namespace CacheGate.Settings

variable {raw other : RawSettings} {settings : Settings} {overrides : Overrides}

/-! ## Addresses and pools -/

/-- The port of an accepted address is the one that is written. -/
theorem port_of_checkAddress {server : RawServer} {address : Net.SocketAddr}
    (checked : checkAddress server = .ok address) :
    address.port = server.port.getD 11222 ∧ 0 < address.port := by
  unfold checkAddress at checked
  dsimp only at checked
  split at checked
  case isTrue => cases checked
  case isFalse nonzero =>
    split at checked
    case h_1 found read =>
      obtain rfl := Except.ok.inj checked
      have same := Net.SocketAddr.parse?_port read
      exact ⟨same, same ▸ Nat.pos_of_ne_zero nonzero⟩
    case h_2 => cases checked

theorem pos_of_checkPoolSize {written : Option Nat} {size : Nat}
    (checked : checkPoolSize written = .ok size) : 0 < size := by
  unfold checkPoolSize at checked
  split at checked
  · cases checked
  · rename_i nonzero
    obtain rfl := Except.ok.inj checked
    exact Nat.pos_of_ne_zero nonzero

/-! ## All settings -/

/-- What accepted settings are, with the members in order of how they are written. -/
structure WellFormed (written : List String) (settings : Settings) : Prop where
  hasCache : settings.caches ≠ []
  distinctCaches : (settings.caches.map CacheSettings.name).Nodup
  fitCaches : ∀ cache ∈ settings.caches, IsFit cache
  members : FirstOccurrences (written.map Text.trimmed ++ [settings.nodeName]) settings.members
  memberNames : ∀ member ∈ settings.members, IsName member
  nodeOnce : settings.members.count settings.nodeName = 1
  port : 0 < settings.address.port
  poolSize : 0 < settings.poolSize

theorem wellFormed_of_ofRaw (accepted : ofRaw raw = .ok settings) :
    WellFormed raw.members settings := by
  have hasCache := caches_ne_nil_of_ofRaw accepted
  have distinctCaches := nodup_names_of_ofRaw accepted
  have fitCaches := isFit_of_ofRaw accepted
  unfold ofRaw at accepted
  simp only [bind_eq_ok_iff] at accepted
  obtain ⟨address, addressed, _, -, _, -, _, -, poolSize, pooled, members, joined, _, -, same⟩ :=
    accepted
  obtain rfl := Except.ok.inj same
  have occurrences := firstOccurrences_of_checkMembers joined
  refine {
    hasCache, distinctCaches, fitCaches
    members := occurrences
    memberNames := isName_of_checkMembers joined (isName_nodeName _)
    nodeOnce := ?_
    port := (port_of_checkAddress addressed).2
    poolSize := pos_of_checkPoolSize pooled }
  exact occurrences.count_eq_one (List.mem_append_right _ (List.mem_singleton.2 rfl))

/-! ## Overrides -/

/-- Settings as written that differ at most in fields that are overridden. -/
structure AgreeBeside (overrides : Overrides) (raw other : RawSettings) : Prop where
  host : overrides.serverHost = none → raw.server.host = other.server.host
  port : overrides.serverPort = none → raw.server.port = other.server.port
  nodeName : overrides.nodeName = none → raw.server.nodeName = other.server.nodeName
  extendedHeaders :
    overrides.extendedHeaders = none → raw.server.extendedHeaders = other.server.extendedHeaders
  level : overrides.logLevel = none → raw.logging.level = other.logging.level
  json : overrides.logJson = none → raw.logging.json = other.logging.json
  poolSize : overrides.workers = none → raw.poolSize = other.poolSize
  contextPath : raw.server.contextPath = other.server.contextPath
  elevatedPrincipal : raw.server.elevatedPrincipal = other.server.elevatedPrincipal
  members : raw.members = other.members
  caches : raw.caches = other.caches

theorem orElse_congr {α : Type} {given left right : Option α}
    (agree : given = none → left = right) : (given <|> left) = (given <|> right) := by
  cases given with
  | none => exact agree rfl
  | some value => rfl

/-- What is written in an overridden field is gone after the overrides. -/
theorem override_congr (agree : AgreeBeside overrides raw other) :
    raw.override overrides = other.override overrides := by
  unfold RawSettings.override
  dsimp only
  rw [orElse_congr agree.host, orElse_congr agree.port, orElse_congr agree.nodeName,
    orElse_congr agree.extendedHeaders, orElse_congr agree.level, orElse_congr agree.json,
    orElse_congr agree.poolSize, agree.contextPath, agree.elevatedPrincipal, agree.members,
    agree.caches]

/-- Settings that are accepted after the overrides are well formed, and settings
that differ at most in overridden fields have the same outcome. -/
theorem overridden_settings_are_well_formed :
    (∀ (raw : RawSettings) (overrides : Overrides) (settings : Settings),
      ofRaw (raw.override overrides) = .ok settings → WellFormed raw.members settings) ∧
    ∀ (overrides : Overrides) (raw other : RawSettings), AgreeBeside overrides raw other →
      ofRaw (raw.override overrides) = ofRaw (other.override overrides) := by
  constructor
  · intro raw overrides settings accepted
    change WellFormed (raw.override overrides).members settings
    exact wellFormed_of_ofRaw accepted
  · intro overrides raw other agree
    rw [override_congr agree]

/-! ## A node that takes a member's name -/

/-- Settings with repeated members, a refused port and a cache with blanks around its name. -/
def clusteredRaw : RawSettings where
  server := { (default : RawServer) with port := some 0 }
  logging := default
  poolSize := none
  members := [" b", "a ", "b", "c"]
  caches := [⟨" main ", some 1, none, none⟩]

/-- The node is called like one of the members, and gets another port. -/
def clusteredOverrides : Overrides :=
  { (default : Overrides) with serverPort := some 80, nodeName := some " a" }

/-- What comes of them. -/
def clusteredSettings : Settings where
  address := .v4 [127, 0, 0, 1] 80
  contextPath := "/rest/v2/caches"
  nodeName := "a"
  extendedHeaders := .never
  elevatedPrincipal := none
  level := .info
  format := .compact
  poolSize := 4
  members := ["b", "a", "c"]
  caches := [⟨"main", .seconds 1, .unlimited, none⟩]

/-- They are well formed, and would be the same if another port were written. -/
theorem node_joins_members_in_order :
    ofRaw (clusteredRaw.override clusteredOverrides) = .ok clusteredSettings ∧
      WellFormed [" b", "a ", "b", "c"] clusteredSettings ∧
      ofRaw ({ clusteredRaw with server := default }.override clusteredOverrides) =
        .ok clusteredSettings := by
  have accepted : ofRaw (clusteredRaw.override clusteredOverrides) = .ok clusteredSettings := by
    decide +kernel
  obtain ⟨formed, congruent⟩ := overridden_settings_are_well_formed
  have agree : AgreeBeside clusteredOverrides { clusteredRaw with server := default }
      clusteredRaw :=
    ⟨fun _ => rfl, nofun, nofun, fun _ => rfl, fun _ => rfl, fun _ => rfl, fun _ => rfl, rfl, rfl,
      rfl, rfl⟩
  exact ⟨accepted, formed _ _ _ accepted, (congruent _ _ _ agree).trans accepted⟩

end CacheGate.Settings
