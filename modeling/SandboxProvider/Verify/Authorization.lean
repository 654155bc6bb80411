import SandboxProvider.Server.Credentials

/-!
# What a token stands for

The loop of `authorizedAccess` returns early and keeps its answer in an accumulator whose unset state
is an empty class name. Its result is nevertheless a function of the multiset of the Secrets that
hold the presented token (`matching`): their common class and namespace, if they have one.
-/

namespace SandboxProvider.Server

/-- The access Secrets that hold the presented token. -/
def matching (got : String) (items : List Secret) : List Secret :=
  items.filter fun secret => got ≠ "" && secret.data.getD AccessSecretTokenKey = got

/-- An access that a handler can work with. -/
def AuthorizedAccess.Valid (access : AuthorizedAccess) : Prop :=
  access.className ≠ "" ∧ access.ns ≠ ""

/-- `authorizedAccess` with the token and the access Secrets that its two reads returned. -/
def resolveAccess (cfg : Config) (expected : String) (items : List Secret) (got : String) :
    Except String AuthorizedAccess :=
  if tokenMatches got expected then .ok ⟨cfg.className, cfg.ns⟩ else matchAccess got {} items

theorem matching_cons (got : String) (secret : Secret) (rest : List Secret) :
    matching got (secret :: rest) =
      if tokenMatches got (secret.data.getD AccessSecretTokenKey) then
        secret :: matching got rest
      else matching got rest := by
  have hiff : (got ≠ "" && secret.data.getD AccessSecretTokenKey = got : Bool) =
      tokenMatches got (secret.data.getD AccessSecretTokenKey) := by
    rw [Bool.eq_iff_iff, tokenMatches_iff]
    simp only [Bool.and_eq_true, decide_eq_true_eq]
    exact and_congr_right fun _ => eq_comm
  unfold matching
  rw [List.filter_cons, hiff]

section Loop

variable {got : String} {items items' : List Secret} {acc access : AuthorizedAccess}

/-- When every matching Secret grants the same valid access, and so does what was matched before,
the loop returns it. -/
theorem matchAccess_of_common (hvalid : access.Valid)
    (hall : ∀ secret ∈ matching got items, grant secret = access)
    (hacc : acc.className = "" ∨ acc = access) :
    matchAccess got acc items = .ok (if matching got items = [] then acc else access) := by
  induction items generalizing acc with
  | nil => rfl
  | cons secret rest ih =>
    rw [matching_cons] at hall ⊢
    unfold matchAccess
    split
    · rename_i hne
      simp only [Bool.not_eq_true] at hne
      simp only [hne, Bool.false_eq_true, if_false] at hall ⊢
      exact ih hall hacc
    · rename_i heq
      have hmatch : tokenMatches got (secret.data.getD AccessSecretTokenKey) = true :=
        not_not.mp heq
      simp only [hmatch, if_true] at hall ⊢
      have hgrant : grant secret = access := hall secret List.mem_cons_self
      have hok : ¬ ((grant secret).className = "" ∨ (grant secret).ns = "" ∨
          (acc.className ≠ "" ∧ acc ≠ grant secret)) := by
        rw [hgrant]
        rintro (h | h | ⟨hset, hother⟩)
        · exact hvalid.1 h
        · exact hvalid.2 h
        · exact hacc.elim hset hother
      rw [if_neg hok, hgrant, ih (fun s hs => hall s (List.mem_cons_of_mem _ hs)) (.inr rfl)]
      simp

/-- What the loop returns is granted by every matching Secret, and is what was matched before. -/
theorem common_of_matchAccess (h : matchAccess got acc items = .ok access) :
    (∀ secret ∈ matching got items, grant secret = access ∧ access.Valid) ∧
      (acc.className ≠ "" → access = acc) ∧ (matching got items = [] → access = acc) := by
  induction items generalizing acc with
  | nil =>
    cases h
    exact ⟨fun _ hmem => absurd hmem List.not_mem_nil, fun _ => rfl, fun _ => rfl⟩
  | cons secret rest ih =>
    rw [matching_cons]
    unfold matchAccess at h
    split at h
    · rename_i hne
      simp only [Bool.not_eq_true] at hne
      simp only [hne, Bool.false_eq_true, if_false]
      exact ih h
    · rename_i heq
      have hmatch : tokenMatches got (secret.data.getD AccessSecretTokenKey) = true :=
        not_not.mp heq
      simp only [hmatch, if_true]
      dsimp only at h
      split at h
      · cases h
      · rename_i hok
        simp only [not_or, not_and, not_not] at hok
        obtain ⟨hclass, hns, hsame⟩ := hok
        obtain ⟨hrest, hkept, -⟩ := ih h
        have haccess : access = grant secret := hkept hclass
        refine ⟨fun s hs => ?_, fun hset => haccess.trans (hsame hset).symm, fun hnil => ?_⟩
        · rcases List.mem_cons.mp hs with rfl | hs
          · exact ⟨haccess.symm, by rw [haccess]; exact ⟨hclass, hns⟩⟩
          · exact hrest s hs
        · cases hnil

/-- What the loop returns, in terms of the matching Secrets. -/
theorem matchAccess_eq_ok_iff :
    matchAccess got {} items = .ok access ↔
      (matching got items = [] ∧ access = {}) ∨
      (matching got items ≠ [] ∧ access.Valid ∧
        ∀ secret ∈ matching got items, grant secret = access) := by
  constructor
  · intro h
    obtain ⟨hall, -, hnone⟩ := common_of_matchAccess h
    by_cases hnil : matching got items = []
    · exact .inl ⟨hnil, hnone hnil⟩
    · obtain ⟨secret, hmem⟩ := List.exists_mem_of_ne_nil _ hnil
      exact .inr ⟨hnil, (hall secret hmem).2, fun s hs => (hall s hs).1⟩
  · rintro (⟨hnil, rfl⟩ | ⟨hne, hvalid, hall⟩)
    · -- any valid access is common to no Secrets
      have hvalid : AuthorizedAccess.Valid ⟨"class", "namespace"⟩ := ⟨by decide, by decide⟩
      have hall : ∀ secret ∈ matching got items, grant secret = ⟨"class", "namespace"⟩ := by
        intro secret hmem
        rw [hnil] at hmem
        exact absurd hmem List.not_mem_nil
      rw [matchAccess_of_common hvalid hall (.inl rfl), if_pos hnil]
    · rw [matchAccess_of_common hvalid hall (.inl rfl), if_neg hne]

/-- The loop passes over the other Secrets. -/
theorem matchAccess_matching (got : String) (acc : AuthorizedAccess) (items : List Secret) :
    matchAccess got acc (matching got items) = matchAccess got acc items := by
  induction items generalizing acc with
  | nil => rfl
  | cons secret rest ih =>
    rw [matching_cons]
    by_cases hmatch : tokenMatches got (secret.data.getD AccessSecretTokenKey) = true
    · simp only [matchAccess, hmatch, if_true, not_true, if_false, ih]
    · simp only [matchAccess, hmatch, not_false_eq_true, if_true, if_false, ih, Bool.false_eq_true]

/-- The loop depends on the matching Secrets only, in any order. -/
theorem matchAccess_of_perm (h : (matching got items').Perm (matching got items)) :
    matchAccess got {} items' = matchAccess got {} items := by
  rw [← matchAccess_matching got {} items', matchAccess_perm h, matchAccess_matching]

/-- The loop fails exactly when the matching Secrets have no common valid access. -/
theorem matchAccess_fails_iff :
    (∃ err, matchAccess got {} items = .error err) ↔
      (∃ secret ∈ matching got items, (grant secret).className = "" ∨ (grant secret).ns = "") ∨
      ∃ secret ∈ matching got items, ∃ secret' ∈ matching got items,
        grant secret ≠ grant secret' := by
  constructor
  · rintro ⟨err, herr⟩
    by_contra hnone
    simp only [not_or, not_exists, not_and, not_not] at hnone
    obtain ⟨hvalid, hsame⟩ := hnone
    have hok : ∃ access, matchAccess got {} items = .ok access := by
      cases hm : matching got items with
      | nil => exact ⟨{}, matchAccess_eq_ok_iff.mpr (.inl ⟨hm, rfl⟩)⟩
      | cons secret rest =>
        have hmem : secret ∈ matching got items := by
          rw [hm]
          exact List.mem_cons_self
        refine ⟨grant secret, matchAccess_eq_ok_iff.mpr (.inr ⟨?_, ?_, ?_⟩)⟩
        · rw [hm]
          exact List.cons_ne_nil _ _
        · exact hvalid secret hmem
        · exact fun s hs => hsame s hs secret hmem
    obtain ⟨access, hok⟩ := hok
    rw [herr] at hok
    cases hok
  · intro hbad
    cases hres : matchAccess got {} items with
    | error err => exact ⟨err, rfl⟩
    | ok access =>
      obtain ⟨hall, -, -⟩ := common_of_matchAccess hres
      obtain ⟨secret, hmem, hinvalid⟩ | ⟨secret, hmem, secret', hmem', hne⟩ := hbad
      · obtain ⟨hgrant, hclass, hns⟩ := hall secret hmem
        rw [hgrant] at hinvalid
        exact absurd hinvalid (not_or.mpr ⟨hclass, hns⟩)
      · exact absurd ((hall secret hmem).1.trans (hall secret' hmem').1.symm) hne

end Loop

/-- **A token is resolved exactly, and in any order.** `authorizedAccess` is `resolveAccess` of what
its two reads return. The configured token stands for the configured class and namespace; any other
one for the class and namespace that all access Secrets with this token grant. It is an error if one
of them grants no class or no namespace, or if two of them differ, and the request is unauthorized if
there are none. The order of the Secrets does not matter, nor do the Secrets with another token. -/
theorem authorizedAccess_resolves_token (cfg : Config) (expected got : String) :
    (∀ c, token cfg c = .ok expected →
      authorizedAccess cfg c got = resolveAccess cfg expected (accessSecrets cfg c) got) ∧
    ∀ items : List Secret,
      (got ≠ "" ∧ got = expected →
        resolveAccess cfg expected items got = .ok ⟨cfg.className, cfg.ns⟩) ∧
      (¬ (got ≠ "" ∧ got = expected) →
        ((∃ err, resolveAccess cfg expected items got = .error err) ↔
          (∃ secret ∈ matching got items,
            (grant secret).className = "" ∨ (grant secret).ns = "") ∨
          ∃ secret ∈ matching got items, ∃ secret' ∈ matching got items,
            grant secret ≠ grant secret') ∧
        (∀ access, matching got items ≠ [] → access.Valid →
          (∀ secret ∈ matching got items, grant secret = access) →
          resolveAccess cfg expected items got = .ok access) ∧
        (matching got items = [] →
          resolveAccess cfg expected items got = .ok {} ∧
          ∀ route, authorized route (resolveAccess cfg expected items got) =
            .replied (.error 401 "unauthorized"))) ∧
      (∀ items', items'.Perm items →
        resolveAccess cfg expected items' got = resolveAccess cfg expected items got) ∧
      ∀ items', (matching got items').Perm (matching got items) →
        resolveAccess cfg expected items' got = resolveAccess cfg expected items got := by
  refine ⟨fun c htoken => authorizedAccess_of_token htoken, fun items => ?_⟩
  have hperm {items' : List Secret} (h : (matching got items').Perm (matching got items)) :
      resolveAccess cfg expected items' got = resolveAccess cfg expected items got := by
    unfold resolveAccess
    rw [matchAccess_of_perm h]
  refine ⟨fun hown => ?_, fun hother => ?_, fun items' h => hperm (h.filter _),
    fun items' h => hperm h⟩
  · exact if_pos (tokenMatches_iff.mpr hown)
  · have hloop : resolveAccess cfg expected items got = matchAccess got {} items :=
      if_neg fun h => hother (tokenMatches_iff.mp h)
    rw [hloop]
    refine ⟨matchAccess_fails_iff, fun access hne hvalid hall => ?_, fun hnil => ?_⟩
    · exact matchAccess_eq_ok_iff.mpr (.inr ⟨hne, hvalid, hall⟩)
    · have hok : matchAccess got {} items = .ok {} := matchAccess_eq_ok_iff.mpr (.inl ⟨hnil, rfl⟩)
      refine ⟨hok, fun route => ?_⟩
      rw [hok]
      rfl

end SandboxProvider.Server
