import NoKnowledge.Core.Discovery

/-!
# Discoveries that return

The loops of the code are the gatherings of `Discovery`, so a discovery
returns exactly when everything it comes to hear is fine and every answer to a
health check is tolerated.
-/

namespace NoKnowledge.Core.Discovery

open Url (Tables)

variable {tables : Tables} {allowPrivate : Bool} {transport : Transport}
variable {maxCandidates maxRelays : Int} {probe : Bool} {known : List String}

theorem normalizeRelayUrls_singleton (text : String) :
    normalizeRelayUrls [text] = (cleanUrl text).toList := by
  rw [normalizeRelayUrls, List.foldl_cons, List.foldl_nil]
  cases cleanUrl text with
  | none => rfl
  | some cleaned => rfl

/-- A body has the fields of an object or it has none. -/
theorem attempt_returns_iff {payload : Json} {key : String} :
    (∃ found, payload.attempt key = .ok found) ↔ payload.isObj = true := by
  cases payload <;> simp [Json.attempt, Json.isObj]

/-- Reading an answer fails only on a body without fields. -/
theorem readAnswer_returns_iff {α : Type} {reply : Except Raised Response} {nothing : α}
    {read : Json → Except Raised α}
    (fields : ∀ payload, (∃ value, read payload = .ok value) ↔ payload.isObj = true) :
    (∃ value, readAnswer reply nothing read = .ok value) ↔ Tolerated reply := by
  cases reply with
  | error raised => exact ⟨fun _ => trivial, fun _ => ⟨_, rfl⟩⟩
  | ok response =>
      rw [readAnswer]
      dsimp only [Tolerated]
      by_cases okay : response.statusCode = 200
      · rw [if_neg (not_not.mpr okay), forall_prop_of_true okay]
        cases response.json with
        | error raised =>
            dsimp only
            split
            · rename_i value
              exact ⟨fun _ => value, fun _ => ⟨_, rfl⟩⟩
            · rename_i other
              exact ⟨fun ⟨_, same⟩ => (by cases same), fun value => absurd value other⟩
        | ok payload => exact fields payload
      · rw [if_pos okay]
        exact ⟨fun _ yes => absurd yes okay, fun _ => ⟨_, rfl⟩⟩

theorem fetchKnownRelays_returns_iff {relay : String} {limit : Int} :
    (∃ urls, fetchKnownRelays transport relay limit = .ok urls) ↔
      Tolerated (transport (relay ++ relaysPath)) := by
  apply readAnswer_returns_iff
  intro payload
  rw [← @attempt_returns_iff payload "relays"]
  cases payload.attempt "relays" with
  | error raised =>
      constructor
      · rintro ⟨urls, same⟩
        cases same
      · rintro ⟨found, same⟩
        cases same
  | ok found =>
      rw [except_ok_bind]
      cases found <;> exact ⟨fun _ => ⟨_, rfl⟩, fun _ => ⟨_, rfl⟩⟩

theorem probeRelay_returns_iff {url : String} :
    (∃ alive, probeRelay transport url = .ok alive) ↔
      Tolerated (transport (url ++ healthPath)) := by
  apply readAnswer_returns_iff
  intro payload
  rw [← @attempt_returns_iff payload "status"]
  cases payload.attempt "status" with
  | error raised =>
      constructor
      · rintro ⟨alive, same⟩
        cases same
      · rintro ⟨found, same⟩
        cases same
  | ok found => exact ⟨fun _ => ⟨_, rfl⟩, fun _ => ⟨_, rfl⟩⟩

/-- Nothing but the parser fails on a URL. -/
theorem isDiscoverable_returns_iff {url : String} :
    (∃ answer, isDiscoverable tables allowPrivate url = .ok answer) ↔
      ∃ parts, Url.urlparse tables url.toList = .ok parts := by
  rw [isDiscoverable]
  cases Url.urlparse tables url.toList with
  | error raised =>
      constructor
      · rintro ⟨answer, same⟩
        cases same
      · rintro ⟨parts, same⟩
        cases same
  | ok parts =>
      refine ⟨fun _ => ⟨parts, rfl⟩, fun _ => ?_⟩
      rw [except_ok_bind]
      split
      · exact ⟨_, rfl⟩
      · split
        · exact ⟨_, rfl⟩
        · cases parts.port with
          | error raised => exact ⟨_, rfl⟩
          | ok port =>
              dsimp only
              split
              · exact ⟨_, rfl⟩
              · split
                · exact ⟨_, rfl⟩
                · exact ⟨_, rfl⟩

/-- A discoverable URL has a host. -/
theorem hostKey_of_discoverable {url : String}
    (discoverable : isDiscoverable tables allowPrivate url = .ok true) :
    hostKey tables url = .ok (keyOf tables url) := by
  have returns : ∃ key, hostKey tables url = .ok key := by
    rw [isDiscoverable] at discoverable
    obtain ⟨parts, parsed, discoverable⟩ := except_bind_eq_ok.mp discoverable
    have port : ∃ port, parts.port = .ok port := by
      cases read : parts.port with
      | ok port => exact ⟨port, rfl⟩
      | error raised =>
          rw [read] at discoverable
          split at discoverable
          · cases discoverable
          · split at discoverable <;> cases discoverable
    obtain ⟨port, read⟩ := port
    rw [hostKey, parsed, except_ok_bind, read]
    exact ⟨_, rfl⟩
  obtain ⟨key, same⟩ := returns
  rw [keyOf, same]

/-- The candidates after some were found, and the hosts that were seen. -/
def Candidates.after (tables : Tables) (known found : List String) : Candidates where
  seen := (known ++ found).map (keyOf tables)
  urls := found

theorem after_append (found : List String) (candidate : String) :
    Candidates.mk ((Candidates.after tables known found).seen ++ [keyOf tables candidate])
        ((Candidates.after tables known found).urls ++ [candidate]) =
      .after tables known (found ++ [candidate]) := by
  simp only [Candidates.after, List.map_append, List.append_assoc, List.map_cons, List.map_nil]

theorem enough_le_iff {count : Nat} :
    enoughCandidates maxCandidates ≤ count + 1 ↔ maxCandidates ≤ (count + 1 : Nat) := by
  rw [enoughCandidates]
  omega

theorem enough_le_iff_of_pos (positive : 0 < maxCandidates) {count : Nat} :
    enoughCandidates maxCandidates ≤ count ↔ maxCandidates ≤ count := by
  rw [enoughCandidates]
  omega

variable (transport) in
/-- The loop over what a relay advertises gathers what it offers. -/
theorem considerAdvertised_eq {found : List String}
    (room : found.length < enoughCandidates maxCandidates) (texts : List String) :
    considerAdvertised tables allowPrivate maxCandidates (.after tables known found) texts =
      gather (hear tables allowPrivate transport maxCandidates known)
          (enoughCandidates maxCandidates) found (texts.map .url) >>= fun urls =>
        .ok (.after tables known urls) := by
  induction texts generalizing found with
  | nil => rfl
  | cons text texts induction =>
      rw [considerAdvertised, List.map_cons, gather, if_neg (Nat.not_le.mpr room),
        normalizeRelayUrls_singleton, hear, offer]
      cases cleanUrl text with
      | none => exact induction room
      | some candidate =>
          dsimp only [Option.toList_some]
          cases discoverable : isDiscoverable tables allowPrivate candidate with
          | error raised => rfl
          | ok answer =>
              rw [except_ok_bind, except_ok_bind]
              cases answer with
              | false => exact induction room
              | true =>
                  rw [if_neg (by decide), if_neg (by decide),
                    hostKey_of_discoverable discoverable, except_ok_bind, except_ok_bind]
                  by_cases old : keyOf tables candidate ∈ (known ++ found).map (keyOf tables)
                  · rw [if_pos old, if_pos (show _ ∈ (Candidates.after tables known found).seen
                      from old)]
                    exact induction room
                  · rw [if_neg old, if_neg (show _ ∉ (Candidates.after tables known found).seen
                      from old)]
                    have urls : (Candidates.after tables known found).urls = found := rfl
                    have longer : (found ++ [candidate]).length = found.length + 1 :=
                      List.length_append
                    rw [urls, pure_bind]
                    dsimp only
                    by_cases full : maxCandidates ≤ ((found ++ [candidate]).length : Nat)
                    · have enough := enough_le_iff.mpr (longer ▸ full)
                      rw [if_pos full, gather_of_enough (longer ▸ enough)]
                      exact congrArg Except.ok (after_append found candidate)
                    · have short := mt enough_le_iff.mp (longer ▸ full)
                      rw [if_neg full]
                      exact (congrArg (fun next => considerAdvertised tables allowPrivate
                        maxCandidates next texts) (after_append found candidate)).trans
                          (induction (longer ▸ Nat.not_le.mp short))

/-- One relay is heard before the next one is asked. -/
theorem gatherCandidates_cons {found : List String}
    (room : found.length < enoughCandidates maxCandidates) (relay : String)
    (relays : List String) :
    gatherCandidates tables allowPrivate transport maxCandidates (.after tables known found)
        (relay :: relays) =
      gather (hear tables allowPrivate transport maxCandidates known)
          (enoughCandidates maxCandidates) found (heardFrom transport maxCandidates relay) >>=
        fun urls =>
          if maxCandidates ≤ (urls.length : Nat) then .ok (.after tables known urls)
          else gatherCandidates tables allowPrivate transport maxCandidates
            (.after tables known urls) relays := by
  rw [gatherCandidates, heardFrom, gather, if_neg (Nat.not_le.mpr room), hear, advertisedBy]
  cases fetchKnownRelays transport relay maxCandidates with
  | error raised => rfl
  | ok advertised =>
      rw [except_ok_bind, except_ok_bind, considerAdvertised_eq transport room, pure_bind]
      dsimp only
      cases gather (hear tables allowPrivate transport maxCandidates known)
          (enoughCandidates maxCandidates) found (advertised.map .url) with
      | error raised => rfl
      | ok urls => rfl

/-- The loop over the relays gathers what there is to hear. -/
theorem gatherCandidates_eq_of_pos (positive : 0 < maxCandidates) {found : List String}
    (room : found.length < enoughCandidates maxCandidates) (relays : List String) :
    gatherCandidates tables allowPrivate transport maxCandidates (.after tables known found)
        relays =
      gather (hear tables allowPrivate transport maxCandidates known)
          (enoughCandidates maxCandidates) found
          (relays.flatMap (heardFrom transport maxCandidates)) >>= fun urls =>
        .ok (.after tables known urls) := by
  induction relays generalizing found with
  | nil => rfl
  | cons relay relays induction =>
      rw [gatherCandidates_cons room, List.flatMap_cons, gather_append]
      cases gather (hear tables allowPrivate transport maxCandidates known)
          (enoughCandidates maxCandidates) found (heardFrom transport maxCandidates relay) with
      | error raised => rfl
      | ok urls =>
          rw [except_ok_bind, except_ok_bind]
          by_cases full : maxCandidates ≤ (urls.length : Nat)
          · rw [if_pos full, gather_of_enough ((enough_le_iff_of_pos positive).mpr full)]
            rfl
          · rw [if_neg full]
            exact induction (Nat.not_le.mp (mt (enough_le_iff_of_pos positive).mp full))

/-- The code hears what there is to hear. -/
theorem gatherCandidates_eq :
    gatherCandidates tables allowPrivate transport maxCandidates (.after tables known [])
        known =
      gather (hear tables allowPrivate transport maxCandidates known)
          (enoughCandidates maxCandidates) [] (allHeard transport maxCandidates known) >>=
        fun urls => .ok (.after tables known urls) := by
  have room : ([] : List String).length < enoughCandidates maxCandidates := by
    rw [enoughCandidates, List.length_nil]
    omega
  by_cases positive : 0 < maxCandidates
  · rw [allHeard, asked, if_pos positive]
    exact gatherCandidates_eq_of_pos positive room known
  · rw [allHeard, asked, if_neg positive]
    generalize hosts : known = relays
    cases relays with
    | nil => rfl
    | cons relay relays =>
        rw [gatherCandidates_cons room, List.take_succ_cons, List.take_zero,
          List.flatMap_singleton]
        cases gather (hear tables allowPrivate transport maxCandidates (relay :: relays))
            (enoughCandidates maxCandidates) [] (heardFrom transport maxCandidates relay) with
        | error raised => rfl
        | ok urls =>
            have full : maxCandidates ≤ (urls.length : Nat) := by omega
            exact if_pos full

/-- The loop over the candidates gathers those that are alive. -/
theorem addAlive_eq (result candidates : List String) :
    addAlive transport maxRelays probe result candidates =
      gather (examine transport probe) maxRelays.toNat result candidates := by
  induction candidates generalizing result with
  | nil => rfl
  | cons candidate candidates induction =>
      rw [addAlive, gather]
      by_cases full : maxRelays ≤ (result.length : Nat)
      · rw [if_pos full, if_pos (Int.toNat_le.mpr full)]
        rfl
      · rw [if_neg full, if_neg (mt Int.toNat_le.mp full), examine]
        cases probe with
        | false => exact induction (result ++ [candidate])
        | true =>
            rw [if_neg (by decide), if_neg (by decide)]
            cases probeRelay transport candidate with
            | error raised => rfl
            | ok alive =>
                cases alive with
                | false => exact induction result
                | true => exact induction (result ++ [candidate])

theorem hear_returns_iff {found : List String} {heard : Heard} :
    (∃ outcome, hear tables allowPrivate transport maxCandidates known found heard =
        .ok outcome) ↔ heard.Fine tables transport := by
  cases heard with
  | answer relay =>
      rw [Heard.Fine, ← @fetchKnownRelays_returns_iff transport relay maxCandidates, hear]
      cases fetchKnownRelays transport relay maxCandidates with
      | error raised =>
          constructor
          · rintro ⟨outcome, same⟩
            cases same
          · rintro ⟨urls, same⟩
            cases same
      | ok urls => exact ⟨fun _ => ⟨urls, rfl⟩, fun _ => ⟨none, rfl⟩⟩
  | url text =>
      rw [Heard.Fine, hear, offer]
      cases cleanUrl text with
      | none => exact ⟨fun _ candidate same => (by cases same), fun _ => ⟨none, rfl⟩⟩
      | some candidate =>
          simp only [Option.some.injEq, forall_eq']
          rw [← @isDiscoverable_returns_iff tables allowPrivate]
          cases discoverable : isDiscoverable tables allowPrivate candidate with
          | error raised =>
              constructor
              · rintro ⟨outcome, same⟩
                cases same
              · rintro ⟨answer, same⟩
                cases same
          | ok answer =>
              refine ⟨fun _ => ⟨answer, rfl⟩, fun _ => ?_⟩
              cases answer with
              | false => exact ⟨none, rfl⟩
              | true =>
                  rw [except_ok_bind, if_neg (by decide),
                    hostKey_of_discoverable discoverable]
                  exact ⟨_, rfl⟩

theorem examine_returns_iff {found : List String} {candidate : String} :
    (∃ outcome, examine transport probe found candidate = .ok outcome) ↔
      (probe = true → Tolerated (transport (candidate ++ healthPath))) := by
  rw [examine]
  cases probe with
  | false => exact ⟨fun _ yes => (by cases yes), fun _ => ⟨_, rfl⟩⟩
  | true =>
      rw [if_neg (by decide), forall_prop_of_true rfl, ← probeRelay_returns_iff]
      cases probeRelay transport candidate with
      | error raised =>
          constructor
          · rintro ⟨outcome, same⟩
            cases same
          · rintro ⟨alive, same⟩
            cases same
      | ok alive => exact ⟨fun _ => ⟨alive, rfl⟩, fun _ => ⟨_, rfl⟩⟩

/-- Every relay has a scheme, a host and a port. -/
def WellFormed (tables : Tables) (relays : List String) : Prop :=
  ∀ relay ∈ relays, ∃ key, hostKey tables relay = .ok key

theorem mapM_hostKey {relays : List String} (wellFormed : WellFormed tables relays) :
    relays.mapM (hostKey tables) = .ok (relays.map (keyOf tables)) := by
  induction relays with
  | nil => rfl
  | cons relay relays induction =>
      obtain ⟨key, found⟩ := wellFormed relay List.mem_cons_self
      have rest := induction fun other member =>
        wellFormed other (List.mem_cons_of_mem _ member)
      have same : keyOf tables relay = key := by rw [keyOf, found]
      rw [List.mapM_cons, found, except_ok_bind, rest, except_ok_bind, List.map_cons, same]
      rfl

/-- A discovery is a gathering of candidates and one of relays that are alive. -/
theorem discoverRelays_eq {current : List String}
    (wellFormed : WellFormed tables (normalizeRelayUrls current)) :
    discoverRelays tables allowPrivate transport maxCandidates maxRelays probe current =
      gather (hear tables allowPrivate transport maxCandidates (normalizeRelayUrls current))
          (enoughCandidates maxCandidates) []
          (allHeard transport maxCandidates (normalizeRelayUrls current)) >>= fun urls =>
        gather (examine transport probe) maxRelays.toNat (normalizeRelayUrls current) urls >>=
          fun result => .ok (normalizeRelayUrls result) := by
  have start : Candidates.mk ((normalizeRelayUrls current).map (keyOf tables)) [] =
      .after tables (normalizeRelayUrls current) [] := by
    rw [Candidates.after, List.append_nil]
  rw [discoverRelays, mapM_hostKey wellFormed, except_ok_bind]
  rw [start, gatherCandidates_eq]
  cases gather (hear tables allowPrivate transport maxCandidates (normalizeRelayUrls current))
      (enoughCandidates maxCandidates) []
      (allHeard transport maxCandidates (normalizeRelayUrls current)) with
  | error raised => rfl
  | ok urls =>
      rw [except_ok_bind, except_ok_bind, except_ok_bind, addAlive_eq]
      rfl

theorem firstCandidates_of_gather {urls : List String}
    (gathered : gather (hear tables allowPrivate transport maxCandidates known)
      (enoughCandidates maxCandidates) [] (allHeard transport maxCandidates known) =
        .ok urls) :
    urls = firstCandidates tables allowPrivate transport maxCandidates known :=
  ((gather_eq_ok_iff (Nat.zero_le _)).mp gathered).2

/-- A discovery returns if and only if every answer and every URL it comes to
hear is fine, and the answer to every health check it comes to make is
tolerated. -/
theorem discovery_returns_iff {current : List String}
    (wellFormed : WellFormed tables (normalizeRelayUrls current)) :
    (∃ result, discoverRelays tables allowPrivate transport maxCandidates maxRelays probe
        current = .ok result) ↔
      Reached (hear tables allowPrivate transport maxCandidates (normalizeRelayUrls current))
          (enoughCandidates maxCandidates) []
          (allHeard transport maxCandidates (normalizeRelayUrls current))
          (fun _ heard => heard.Fine tables transport) ∧
        Reached (examine transport probe) maxRelays.toNat (normalizeRelayUrls current)
          (firstCandidates tables allowPrivate transport maxCandidates
            (normalizeRelayUrls current))
          (fun _ candidate =>
            probe = true → Tolerated (transport (candidate ++ healthPath))) := by
  rw [discoverRelays_eq wellFormed, ← reached_congr fun _ _ => hear_returns_iff,
    ← reached_congr fun _ _ => examine_returns_iff, ← gather_returns_iff,
    ← gather_returns_iff]
  cases gathered : gather (hear tables allowPrivate transport maxCandidates
      (normalizeRelayUrls current)) (enoughCandidates maxCandidates) []
      (allHeard transport maxCandidates (normalizeRelayUrls current)) with
  | error raised =>
      constructor
      · rintro ⟨result, same⟩
        cases same
      · rintro ⟨⟨urls, same⟩, -⟩
        cases same
  | ok urls =>
      rw [← firstCandidates_of_gather gathered, except_ok_bind]
      cases gather (examine transport probe) maxRelays.toNat (normalizeRelayUrls current)
          urls with
      | error raised =>
          constructor
          · rintro ⟨result, same⟩
            cases same
          · rintro ⟨-, result, same⟩
            cases same
      | ok result => exact ⟨fun _ => ⟨⟨urls, rfl⟩, result, rfl⟩, fun _ => ⟨_, rfl⟩⟩

/-- Tables for ASCII texts and a single address. -/
def asciiTables : Tables where
  lower := List.map Char.toLower
  nfkc := id
  ipAddress := fun text =>
    if text = "127.0.0.1".toList then some { isPrivate := true, isLoopback := true } else none

/-- A transport that maps exact URLs to bodies; anything else is unreachable. -/
def stub (bodies : List (String × Json)) : Transport := fun url =>
  match bodies.lookup url with
  | some body => .ok { json := .ok body }
  | none => .error { class_ := .client, text := "unreachable" }

def seed : String := "https://seed.example"

def seedPath : String := "https://seed.example/api/relays"

theorem seed_wellFormed : WellFormed asciiTables (normalizeRelayUrls [seed]) := by
  have normal : normalizeRelayUrls [seed] = [seed] := rfl
  rw [normal]
  intro relay member
  rw [List.mem_singleton.mp member]
  exact ⟨("https".toList, "seed.example".toList, 443), rfl⟩

def liveRelay : Transport :=
  stub [(seedPath, .obj [("relays", .arr [.str "https://good.example"])]),
    ("https://good.example/api/health", .obj [("status", .str "ok")])]

theorem discovery_returns_iff_seed :
    Reached (hear asciiTables false liveRelay 50 (normalizeRelayUrls [seed]))
        (enoughCandidates 50) [] (allHeard liveRelay 50 (normalizeRelayUrls [seed]))
        (fun _ heard => heard.Fine asciiTables liveRelay) ∧
      Reached (examine liveRelay true) (8 : Int).toNat (normalizeRelayUrls [seed])
        (firstCandidates asciiTables false liveRelay 50 (normalizeRelayUrls [seed]))
        (fun _ candidate => true = true → Tolerated (liveRelay (candidate ++ healthPath))) :=
  (discovery_returns_iff seed_wellFormed).mp ⟨[seed, "https://good.example"], rfl⟩

/-- One URL that cannot be parsed stops the discovery. -/
theorem hostile_relay_stops_discovery :
    ¬ ∀ body, ∃ result, discoverRelays asciiTables false (stub [(seedPath, body)]) 50 8 true
      [seed] = .ok result := by
  intro survives
  obtain ⟨result, same⟩ := survives (.obj [("relays", .arr [.str "https://["])])
  have stopped : discoverRelays asciiTables false
      (stub [(seedPath, .obj [("relays", .arr [.str "https://["])])]) 50 8 true [seed] =
        .error (Url.invalid "Invalid IPv6 URL") := rfl
  rw [stopped] at same
  cases same

end NoKnowledge.Core.Discovery
