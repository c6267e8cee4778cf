import SecretSync.Net.Url

/-!
# Slashes at the end of an address

A text addresses a service by its scheme and its authority alone.  Both stand in front of the first
slash behind the authority, so slashes at the end of the text say nothing.
-/

namespace SecretSync.Net.Url

variable {cs front slashes : List Char}

/-- The characters of a text address a service: the scheme is http or https, and the authority is
not empty. -/
def Addresses (cs : List Char) : Prop :=
  ((scheme (cleaned cs)).1 = "http".toList ∨ (scheme (cleaned cs)).1 = "https".toList) ∧
    authority (scheme (cleaned cs)).2 ≠ []

/-- An address that counts as a service has the form of one. -/
theorem addresses_of_isService {s : String} (h : isService s = .ok true) : Addresses s.toList := by
  unfold isService at h
  dsimp only at h
  cases hchecked : checkAuthority (authority (scheme (cleaned s.toList)).2) with
  | error e =>
    rw [hchecked] at h
    cases h
  | ok u =>
    rw [hchecked] at h
    have hdecided := Except.ok.inj h
    rw [Bool.and_eq_true, Bool.or_eq_true, beq_iff_eq, beq_iff_eq, Bool.not_eq_true',
      List.isEmpty_eq_false_iff] at hdecided
    exact hdecided

private theorem cleaned_append (hslashes : ∀ c ∈ slashes, c = '/') :
    cleaned (cs ++ slashes) = cleaned cs ++ slashes := by
  have hfilter : slashes.filter (fun c => c != '\t' && c != '\r' && c != '\n') = slashes := by
    apply List.filter_eq_self.mpr
    intro c hc
    rw [hslashes c hc]
    rfl
  have hdrop : slashes.dropWhile (fun c => c.toNat ≤ 0x20) = slashes := by
    cases slashes with
    | nil => rfl
    | cons c rest =>
      rw [List.forall_mem_cons] at hslashes
      rw [hslashes.1]
      rfl
  unfold cleaned
  rw [List.dropWhile_append]
  split
  · next hblank => rw [hdrop, hfilter, List.isEmpty_iff.mp hblank, List.filter_nil, List.nil_append]
  · rw [List.filter_append, hfilter]

private theorem ne_colon (hfront : ':' ∉ front) : ∀ c ∈ front, (c != ':') = true := by
  intro c hc
  rw [bne_iff_ne]
  rintro rfl
  exact hfront hc

/-- The scheme ends at the first colon. -/
theorem scheme_append_colon (hfront : ':' ∉ front) :
    scheme (front ++ ':' :: cs) =
      if front.head?.any isLetter && front.all isSchemeChar then (front.map Char.toLower, cs)
      else ([], front ++ ':' :: cs) := by
  have htake : (front ++ ':' :: cs).takeWhile (· != ':') = front := by
    rw [List.takeWhile_append_of_pos (ne_colon hfront)]
    exact List.append_nil front
  have hdrop : (front ++ ':' :: cs).dropWhile (· != ':') = ':' :: cs := by
    rw [List.dropWhile_append_of_pos (ne_colon hfront)]
    rfl
  unfold scheme
  rw [htake, hdrop]
  cases front with
  | nil => rfl
  | cons first rest => rfl

private theorem scheme_of_not_mem (hcolon : ':' ∉ cs) : scheme cs = ([], cs) := by
  have hdrop : (cs ++ []).dropWhile (· != ':') = [].dropWhile (· != ':') :=
    List.dropWhile_append_of_pos (ne_colon hcolon)
  rw [List.append_nil] at hdrop
  unfold scheme
  dsimp only
  rw [hdrop]
  cases cs.takeWhile (· != ':') with
  | nil => rfl
  | cons first rest => rfl

/-- Where there is a scheme, slashes at the end belong to what follows it. -/
theorem scheme_append (hslashes : ∀ c ∈ slashes, c = '/')
    (hscheme : (scheme (cs ++ slashes)).1 ≠ []) :
    scheme (cs ++ slashes) = ((scheme cs).1, (scheme cs).2 ++ slashes) := by
  have hnone : ':' ∉ slashes := fun hmem => absurd (hslashes _ hmem) (by decide)
  by_cases hcolon : ':' ∈ cs
  · rcases List.eq_append_cons_of_mem hcolon with ⟨front, rest, rfl, hfront⟩
    rw [List.append_assoc, List.cons_append, scheme_append_colon hfront] at hscheme ⊢
    rw [scheme_append_colon hfront]
    split at hscheme
    · next hvalid => rw [if_pos hvalid, if_pos hvalid]
    · exact absurd rfl hscheme
  · have hall : ':' ∉ cs ++ slashes := by
      rw [List.mem_append]
      exact fun h => h.elim hcolon hnone
    rw [scheme_of_not_mem hall] at hscheme
    exact absurd rfl hscheme

/-- An authority stands behind two slashes, and does not start with another one. -/
theorem exists_of_authority_ne_nil (hfull : authority cs ≠ []) :
    ∃ c rest, cs = '/' :: '/' :: c :: rest ∧ c ≠ '/' := by
  unfold authority at hfull
  split at hfull
  · next rest =>
    cases rest with
    | nil => exact absurd rfl hfull
    | cons c rest =>
      refine ⟨c, rest, rfl, ?_⟩
      rintro rfl
      exact hfull rfl
  · exact absurd rfl hfull

/-- Where there is an authority, slashes at the end are no part of it. -/
theorem authority_append (hslashes : ∀ c ∈ slashes, c = '/')
    (hfull : authority (cs ++ slashes) ≠ []) : authority (cs ++ slashes) = authority cs := by
  rcases exists_of_authority_ne_nil hfull with ⟨c, rest, hall, hc⟩
  have hlong : ∃ front, cs = '/' :: '/' :: front := by
    rcases cs with _ | ⟨a, _ | ⟨b, front⟩⟩
    · have hmem : c ∈ slashes := by
        rw [List.nil_append] at hall
        simp [hall]
      exact absurd (hslashes c hmem) hc
    · have hmem : c ∈ slashes := by
        rw [List.singleton_append, List.cons.injEq] at hall
        simp [hall.2]
      exact absurd (hslashes c hmem) hc
    · rw [List.cons_append, List.cons_append, List.cons.injEq, List.cons.injEq] at hall
      rw [hall.1, hall.2.1]
      exact ⟨front, rfl⟩
  rcases hlong with ⟨front, rfl⟩
  show (front ++ slashes).takeWhile _ = front.takeWhile _
  rw [List.takeWhile_append]
  split
  · next hwhole =>
    have hstop : slashes.takeWhile (fun c => c != '/' && c != '?' && c != '#') = [] := by
      cases slashes with
      | nil => rfl
      | cons slash rest =>
        rw [List.forall_mem_cons] at hslashes
        rw [hslashes.1]
        rfl
    have hfront : front.takeWhile (fun c => c != '/' && c != '?' && c != '#') = front :=
      (List.takeWhile_prefix _).eq_of_length hwhole
    rw [hstop, hfront, List.append_nil]
  · rfl

/-- An address of a service still is one without slashes at its end. -/
theorem Addresses.of_append (hslashes : ∀ c ∈ slashes, c = '/') (h : Addresses (cs ++ slashes)) :
    Addresses cs := by
  unfold Addresses at h ⊢
  rw [cleaned_append hslashes] at h
  have hscheme : (scheme (cleaned cs ++ slashes)).1 ≠ [] := by
    rcases h.1 with heq | heq <;> rw [heq] <;> decide
  rw [scheme_append hslashes hscheme] at h
  exact ⟨h.1, authority_append hslashes h.2 ▸ h.2⟩

end SecretSync.Net.Url
