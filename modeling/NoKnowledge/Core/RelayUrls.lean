import Mathlib.Data.List.DropRight
import NoKnowledge.Core.DiscoveryResult
import NoKnowledge.Foundation.Greedy

/-!
# Relay URLs in normal form

Blanks are removed first and slashes second, so a blank before the last slashes
comes to the end of the URL and stays there.  Where no entry has such a blank the
normal form is a projection that forgets surrounding blanks and trailing slashes;
the next normalisation of any other entry gives another URL.
-/

namespace NoKnowledge.Core

/-- `base_url.rstrip("/")` -/
def HttpRelay.baseUrl (url : String) : String :=
  String.ofList (url.toList.rdropWhile (· = '/'))

/-- `MultiRelayBackend.__init__`: the URLs of its relays. -/
def MultiRelay.baseUrls (urls : List String) : Except Raised (List String) := do
  let relays := (normalizeRelayUrls urls).map HttpRelay.baseUrl
  refuse relays.isEmpty { class_ := .value, text := "at least one relay URL is required" }
  return relays

namespace RelayUrls

open Discovery (addUrl foldl_addUrl_of_normal mem_foldl_addUrl normalizeRelayUrls_eq)

variable {url other : String} {urls others : List String}

/-- A blank or a slash. -/
def isTrailing (character : Char) : Bool := Json.isBlank character || character = '/'

/-- `url.strip().rstrip("/")` -/
def trimmed (url : String) : List Char := (Json.strip url.toList).rdropWhile (· = '/')

/-- An entry without leading blanks, trailing blanks and trailing slashes. -/
def core (url : String) : List Char :=
  (url.toList.dropWhile Json.isBlank).rdropWhile isTrailing

/-- No blank is left at the end when the trailing slashes are removed. -/
def Tidy (url : String) : Prop := ∀ last ∈ (trimmed url).getLast?, Json.isBlank last = false

/-- A URL of what is left of an entry. -/
def withScheme (cleaned : List Char) : List Char :=
  if "http://".toList.isPrefixOf cleaned || "https://".toList.isPrefixOf cleaned then cleaned
  else "https://".toList ++ cleaned

theorem cleanUrl_eq (url : String) :
    cleanUrl url =
      if (trimmed url).isEmpty then none else some (String.ofList (withScheme (trimmed url))) := by
  have same : ((Json.strip url.toList).reverse.dropWhile (· = '/')).reverse = trimmed url := rfl
  rw [cleanUrl, same, withScheme]
  split
  · rfl
  · split
    · rfl
    · rw [String.ofList_append, String.ofList_toList]

theorem cleanUrl_eq_some {cleaned : String} :
    cleanUrl url = some cleaned ↔
      trimmed url ≠ [] ∧ cleaned.toList = withScheme (trimmed url) := by
  rw [cleanUrl_eq]
  by_cases empty : trimmed url = []
  · simp [empty]
  · simp only [List.isEmpty_eq_false_iff.mpr empty, Bool.false_eq_true, if_false,
      Option.some.injEq]
    constructor
    · rintro rfl
      exact ⟨empty, String.toList_ofList⟩
    · rintro ⟨-, same⟩
      rw [← same, String.ofList_toList]

/-- Removing more from the end after less. -/
theorem rdropWhile_rdropWhile {less more : Char → Bool} (text : List Char)
    (implies : ∀ character, less character = true → more character = true) :
    (text.rdropWhile less).rdropWhile more = text.rdropWhile more := by
  induction text using List.reverseRecOn with
  | nil => rfl
  | append_singleton text last induction =>
      by_cases removed : less last = true
      · rw [List.rdropWhile_concat_pos _ _ _ removed,
          List.rdropWhile_concat_pos _ _ _ (implies last removed), induction]
      · rw [List.rdropWhile_concat_neg _ _ _ removed]

theorem rdropWhile_trimmed (url : String) : (trimmed url).rdropWhile isTrailing = core url := by
  have slash : ∀ character : Char, decide (character = '/') = true → isTrailing character := by
    intro character same
    simp [isTrailing, of_decide_eq_true same]
  have blank : ∀ character, Json.isBlank character = true → isTrailing character := by
    intro character same
    simp [isTrailing, same]
  rw [trimmed, rdropWhile_rdropWhile _ slash]
  exact rdropWhile_rdropWhile _ blank

theorem getLast?_trimmed_ne_slash : ∀ last ∈ (trimmed url).getLast?, last ≠ '/' := by
  intro last member
  have filled : trimmed url ≠ [] := by
    intro empty
    rw [empty] at member
    cases member
  rw [List.getLast?_eq_getLast_of_ne_nil filled] at member
  have kept := List.rdropWhile_last_not (fun character : Char => decide (character = '/'))
    (Json.strip url.toList) filled
  cases member
  exact fun same => kept (decide_eq_true same)

/-- A tidy entry is left with its core. -/
theorem trimmed_of_tidy (tidy : Tidy url) : trimmed url = core url := by
  rw [← rdropWhile_trimmed]
  refine (List.rdropWhile_eq_self_iff.mpr fun filled trailing => ?_).symm
  have last := List.getLast?_eq_getLast_of_ne_nil filled
  have notBlank := tidy _ last
  have notSlash := getLast?_trimmed_ne_slash _ last
  simp [isTrailing, notBlank, notSlash] at trailing

theorem withScheme_eq (cleaned : List Char) :
    ∃ scheme, withScheme cleaned = scheme ++ cleaned := by
  rw [withScheme]
  split
  · exact ⟨[], rfl⟩
  · exact ⟨_, rfl⟩

/-- A URL has a scheme. -/
theorem hasScheme_withScheme (cleaned : List Char) :
    "http://".toList <+: withScheme cleaned ∨ "https://".toList <+: withScheme cleaned := by
  rw [withScheme]
  split
  · rename_i present
    rw [Bool.or_eq_true, List.isPrefixOf_iff_prefix, List.isPrefixOf_iff_prefix] at present
    exact present
  · exact .inr (List.prefix_append _ _)

theorem withScheme_of_hasScheme {cleaned : List Char}
    (present : "http://".toList <+: cleaned ∨ "https://".toList <+: cleaned) :
    withScheme cleaned = cleaned := by
  rw [← List.isPrefixOf_iff_prefix, ← List.isPrefixOf_iff_prefix, ← Bool.or_eq_true] at present
  rw [withScheme, if_pos present]

theorem dropWhile_withScheme (cleaned : List Char) :
    (withScheme cleaned).dropWhile Json.isBlank = withScheme cleaned := by
  rcases hasScheme_withScheme cleaned with ⟨rest, same⟩ | ⟨rest, same⟩
  · rw [← same]
    rfl
  · rw [← same]
    rfl

theorem getLast?_withScheme {cleaned : List Char} (filled : cleaned ≠ []) :
    (withScheme cleaned).getLast? = cleaned.getLast? := by
  obtain ⟨scheme, same⟩ := withScheme_eq cleaned
  rw [same, List.getLast?_append_of_ne_nil _ filled]

/-- Nothing is removed from a text that ends in neither a blank nor a slash. -/
theorem rdropWhile_of_getLast? {text : List Char} {removed : Char → Bool}
    (kept : ∀ last ∈ text.getLast?, removed last = false) : text.rdropWhile removed = text := by
  refine List.rdropWhile_eq_self_iff.mpr fun filled last => ?_
  have stays := kept _ (List.getLast?_eq_getLast_of_ne_nil filled)
  rw [stays] at last
  cases last

/-- What a tidy entry becomes does not change any more. -/
theorem cleanUrl_of_tidy {cleaned : String} (became : cleanUrl url = some cleaned)
    (tidy : Tidy url) : cleanUrl cleaned = some cleaned := by
  obtain ⟨filled, written⟩ := cleanUrl_eq_some.mp became
  have noBlank : (withScheme (trimmed url)).rdropWhile Json.isBlank =
      withScheme (trimmed url) :=
    rdropWhile_of_getLast? (by rwa [getLast?_withScheme filled])
  have noSlash : (withScheme (trimmed url)).rdropWhile (fun character => character = '/') =
      withScheme (trimmed url) := by
    apply rdropWhile_of_getLast?
    rw [getLast?_withScheme filled]
    exact fun last member => decide_eq_false (getLast?_trimmed_ne_slash last member)
  have same : trimmed cleaned = withScheme (trimmed url) := by
    have stripped : Json.strip (withScheme (trimmed url)) = withScheme (trimmed url) := by
      show ((withScheme (trimmed url)).dropWhile Json.isBlank).rdropWhile Json.isBlank = _
      rw [dropWhile_withScheme, noBlank]
    rw [trimmed, written, stripped, noSlash]
  have nonempty : withScheme (trimmed url) ≠ [] := by
    obtain ⟨scheme, split⟩ := withScheme_eq (trimmed url)
    rw [split]
    exact List.append_ne_nil_of_right_ne_nil _ filled
  rw [cleanUrl_eq_some, same, withScheme_of_hasScheme (hasScheme_withScheme _), written]
  exact ⟨nonempty, rfl⟩

/-- A blank at the end of a URL is removed the next time. -/
theorem tidy_of_cleanUrl {cleaned : String} (became : cleanUrl url = some cleaned)
    (normal : cleanUrl cleaned = some cleaned) : Tidy url := by
  obtain ⟨filled, written⟩ := cleanUrl_eq_some.mp became
  obtain ⟨left, rewritten⟩ := cleanUrl_eq_some.mp normal
  intro last member
  by_contra blank
  rw [Bool.not_eq_false] at blank
  have ends : cleaned.toList.getLast? = some last := by
    rw [written, getLast?_withScheme filled]
    exact member
  obtain ⟨before, split⟩ := List.getLast?_eq_some_iff.mp ends
  -- the blank is gone from what is left of the URL
  have shorter : trimmed cleaned <+: before := by
    have stripped : Json.strip cleaned.toList = before.rdropWhile Json.isBlank := by
      show (cleaned.toList.dropWhile Json.isBlank).rdropWhile Json.isBlank = _
      rw [written, dropWhile_withScheme, ← written, split, List.rdropWhile_concat_pos _ _ _ blank]
    rw [trimmed, stripped]
    exact (List.rdropWhile_prefix _ _).trans (List.rdropWhile_prefix _ _)
  have whole : cleaned.toList = before ++ [last] := split
  rw [withScheme] at rewritten
  split at rewritten
  · have longer := shorter.length_le
    rw [← rewritten, whole, List.length_append, List.length_singleton] at longer
    omega
  · rename_i absent
    rw [Bool.or_eq_true, List.isPrefixOf_iff_prefix, List.isPrefixOf_iff_prefix] at absent
    have scheme : "https://".toList <+: before ++ [last] := by
      rw [← whole, rewritten]
      exact List.prefix_append _ _
    rcases List.prefix_or_prefix_of_prefix scheme (shorter.trans (List.prefix_append _ _)) with
      present | short
    · exact absent (.inr present)
    · have atEnd : last ∈ trimmed cleaned := by
        have sameEnd := congrArg List.getLast? rewritten
        rw [List.getLast?_append_of_ne_nil _ left, ends] at sameEnd
        exact List.mem_of_getLast? sameEnd.symm
      have plain : "https://".toList.all (fun character => !Json.isBlank character) = true := by
        decide
      have unblank := List.all_eq_true.mp plain last (short.subset atEnd)
      rw [blank] at unblank
      cases unblank

/-- The URLs of the entries, each where it comes first. -/
theorem normalizeRelayUrls_eq_eraseDups (urls : List String) :
    normalizeRelayUrls urls = (urls.filterMap cleanUrl).eraseDups := by
  rw [normalizeRelayUrls_eq]
  induction urls using List.reverseRecOn with
  | nil => rfl
  | append_singleton urls url induction =>
      rw [List.foldl_append, List.foldl_cons, List.foldl_nil, induction, addUrl,
        List.filterMap_append]
      cases cleaned : cleanUrl url with
      | none => rw [List.filterMap_cons_none cleaned, List.filterMap_nil, List.append_nil]
      | some new =>
          rw [List.filterMap_cons_some cleaned, List.filterMap_nil,
            Greedy.eraseDups_append_singleton]
          simp only [List.mem_eraseDups]

theorem nodup_normalizeRelayUrls (urls : List String) : (normalizeRelayUrls urls).Nodup := by
  rw [normalizeRelayUrls_eq_eraseDups]
  exact Greedy.nodup_eraseDups _

/-- An entry adds its URL or nothing. -/
theorem addUrl_cases (seen : List String) (url : String) :
    addUrl seen url = seen ∨
      ∃ new, cleanUrl url = some new ∧ addUrl seen url = seen ++ [new] := by
  rw [addUrl]
  cases cleanUrl url with
  | none => exact .inl rfl
  | some new =>
      dsimp only
      split
      · exact .inl rfl
      · exact .inr ⟨new, rfl, rfl⟩

/-- No entry adds more than one URL. -/
theorem foldl_addUrl_adds (seen urls : List String) :
    ∃ added, urls.foldl addUrl seen = seen ++ added ∧ added.length ≤ urls.length := by
  induction urls generalizing seen with
  | nil => exact ⟨[], (List.append_nil _).symm, Nat.le_refl _⟩
  | cons url urls induction =>
      obtain ⟨added, rest, bounded⟩ := induction (addUrl seen url)
      rw [List.foldl_cons, rest]
      rcases addUrl_cases seen url with nothing | ⟨new, -, one⟩
      · rw [nothing]
        exact ⟨added, rfl, bounded.trans (Nat.le_succ _)⟩
      · rw [one, List.append_assoc]
        exact ⟨new :: added, rfl, Nat.succ_le_succ bounded⟩

/-- URLs that are all added as they are do not change. -/
theorem normal_of_foldl_addUrl (seen urls : List String)
    (same : urls.foldl addUrl seen = seen ++ urls) : ∀ url ∈ urls, cleanUrl url = some url := by
  induction urls generalizing seen with
  | nil =>
      intro url member
      cases member
  | cons url urls induction =>
      rw [List.foldl_cons] at same
      rcases addUrl_cases seen url with nothing | ⟨new, cleaned, one⟩
      · -- the other entries do not make up for the missing one
        obtain ⟨added, rest, bounded⟩ := foldl_addUrl_adds (addUrl seen url) urls
        have lengths := congrArg List.length (rest.symm.trans same)
        rw [nothing, List.length_append, List.length_append, List.length_cons] at lengths
        omega
      · obtain ⟨added, rest, -⟩ := foldl_addUrl_adds (addUrl seen url) urls
        have front := rest.symm.trans same
        rw [one, List.append_assoc] at front
        obtain ⟨rfl, -⟩ := List.cons.inj (List.append_cancel_left front)
        intro other member
        rcases List.mem_cons.mp member with rfl | later
        · exact cleaned
        · refine induction (seen ++ [new]) ?_ other later
          rw [← one, same, one, List.append_assoc]
          rfl

theorem mem_normalizeRelayUrls {found : String} :
    found ∈ normalizeRelayUrls urls ↔ ∃ url ∈ urls, cleanUrl url = some found := by
  rw [normalizeRelayUrls_eq, mem_foldl_addUrl]
  simp

/-- The normal form of a list is kept exactly when every entry is tidy. -/
theorem normalize_again_iff (urls : List String) :
    normalizeRelayUrls (normalizeRelayUrls urls) = normalizeRelayUrls urls ↔
      ∀ url ∈ urls, Tidy url := by
  constructor
  · intro again url member
    have normal := normal_of_foldl_addUrl [] (normalizeRelayUrls urls) again
    cases became : cleanUrl url with
    | none =>
        intro last lastMember
        rw [cleanUrl_eq] at became
        split at became
        · rename_i empty
          rw [List.isEmpty_iff.mp empty] at lastMember
          cases lastMember
        · cases became
    | some cleaned =>
        exact tidy_of_cleanUrl became
          (normal cleaned (mem_normalizeRelayUrls.mpr ⟨url, member, became⟩))
  · intro tidy
    refine @foldl_addUrl_of_normal [] _ ?_ (nodup_normalizeRelayUrls urls)
    intro found member
    obtain ⟨url, urlMember, became⟩ := mem_normalizeRelayUrls.mp member
    exact cleanUrl_of_tidy became (tidy url urlMember)

/-- A URL in normal form has no slash at its end. -/
theorem baseUrl_of_mem {found : String} (member : found ∈ normalizeRelayUrls urls) :
    HttpRelay.baseUrl found = found := by
  obtain ⟨url, -, became⟩ := mem_normalizeRelayUrls.mp member
  obtain ⟨filled, written⟩ := cleanUrl_eq_some.mp became
  have kept : found.toList.rdropWhile (fun character => character = '/') = found.toList := by
    apply rdropWhile_of_getLast?
    rw [written, getLast?_withScheme filled]
    exact fun last lastMember => decide_eq_false (getLast?_trimmed_ne_slash last lastMember)
  rw [HttpRelay.baseUrl, kept, String.ofList_toList]

/-- The relays of a backend are those of the normal form. -/
theorem baseUrls_eq (urls : List String) :
    MultiRelay.baseUrls urls =
      if normalizeRelayUrls urls = [] then
        .error { class_ := .value, text := "at least one relay URL is required" }
      else .ok (normalizeRelayUrls urls) := by
  have same : (normalizeRelayUrls urls).map HttpRelay.baseUrl = normalizeRelayUrls urls := by
    refine (List.map_congr_left fun found member => ?_).trans (List.map_id _)
    exact baseUrl_of_mem member
  rw [MultiRelay.baseUrls, same]
  by_cases empty : normalizeRelayUrls urls = []
  · rw [if_pos empty, empty]
    rfl
  · rw [if_neg empty, List.isEmpty_eq_false_iff.mpr empty]
    rfl

/-- Entries that differ only in surrounding blanks and trailing slashes. -/
def Alike (urls others : List String) : Prop :=
  List.Forall₂ (fun url other => core url = core other) urls others

theorem normalize_of_alike (alike : Alike urls others) (tidy : ∀ url ∈ urls, Tidy url)
    (otherTidy : ∀ url ∈ others, Tidy url) :
    normalizeRelayUrls urls = normalizeRelayUrls others := by
  have cleaned : urls.filterMap cleanUrl = others.filterMap cleanUrl := by
    induction alike with
    | nil => rfl
    | @cons url other urls others same _ induction =>
        have first : cleanUrl url = cleanUrl other := by
          rw [cleanUrl_eq, cleanUrl_eq, trimmed_of_tidy (tidy url List.mem_cons_self),
            trimmed_of_tidy (otherTidy other List.mem_cons_self), same]
        have rest := induction (fun url member => tidy url (List.mem_cons_of_mem _ member))
          (fun url member => otherTidy url (List.mem_cons_of_mem _ member))
        rw [List.filterMap_cons, List.filterMap_cons, first, rest]
  rw [normalizeRelayUrls_eq_eraseDups, normalizeRelayUrls_eq_eraseDups, cleaned]

/-- The normal form is a projection on one list, and another list that differs from
it only in surrounding blanks and trailing slashes has the same. -/
structure Projects (urls others : List String) : Prop where
  again : normalizeRelayUrls (normalizeRelayUrls urls) = normalizeRelayUrls urls
  distinct : (normalizeRelayUrls urls).Nodup
  ordered : normalizeRelayUrls urls = (urls.filterMap cleanUrl).eraseDups
  forgets : Alike urls others → normalizeRelayUrls urls = normalizeRelayUrls others
  /-- A backend for the normal form has it as its relays. -/
  backend : normalizeRelayUrls urls ≠ [] →
    MultiRelay.baseUrls (normalizeRelayUrls urls) = .ok (normalizeRelayUrls urls)

/-- The normal form is a projection of two lists exactly when all entries are tidy. -/
theorem normalisation_projects_iff (urls others : List String) :
    (Projects urls others ∧ Projects others urls) ↔ ∀ url ∈ urls ++ others, Tidy url := by
  have projects : ∀ {urls others : List String}, (∀ url ∈ urls, Tidy url) →
      (∀ url ∈ others, Tidy url) → Projects urls others := by
    intro urls others tidy otherTidy
    have again := (normalize_again_iff urls).mpr tidy
    refine ⟨again, nodup_normalizeRelayUrls urls, normalizeRelayUrls_eq_eraseDups urls,
      fun alike => normalize_of_alike alike tidy otherTidy, fun filled => ?_⟩
    rw [baseUrls_eq, again, if_neg filled]
  constructor
  · rintro ⟨first, second⟩ url member
    rcases List.mem_append.mp member with here | there
    · exact (normalize_again_iff urls).mp first.again url here
    · exact (normalize_again_iff others).mp second.again url there
  · intro tidy
    have here : ∀ url ∈ urls, Tidy url := fun url member =>
      tidy url (List.mem_append_left _ member)
    have there : ∀ url ∈ others, Tidy url := fun url member =>
      tidy url (List.mem_append_right _ member)
    exact ⟨projects here there, projects there here⟩

/-- A blank before the last slash comes to the end, and goes the next time. -/
theorem exposed_blank_changes_again :
    normalizeRelayUrls ["http://a /"] = ["http://a "] ∧
      normalizeRelayUrls (normalizeRelayUrls ["http://a /"]) = ["http://a"] ∧
      Alike ["http://a /"] ["http://a"] ∧
      normalizeRelayUrls ["http://a"] ≠ normalizeRelayUrls ["http://a /"] := by
  have alike : Alike ["http://a /"] ["http://a"] := .cons (by decide) .nil
  exact ⟨by decide, by decide, alike, by decide⟩

end RelayUrls

end NoKnowledge.Core
