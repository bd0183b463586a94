/-
AlertRelay/Proofs/Url/Foreign.lean

URLs in a scheme that not everybody knows, such as the one of the lists.

The host in such a URL is any text, but not every character of it stands for itself: some end the
host or are refused, and some are escaped.  The others are plain (`Host.isPlain`).  Plain characters
are read as the host that they spell (`Url.readAuthority_of_plain`), and they are all that a host
is ever shown in, an address of sixteen bytes apart, which has colons (`Host.plain_or_colon`).  So
whoever wants to know whether a text got through as it was has to look at its characters only.

The slashes are part of the scheme here, as they are in the URLs that settings are turned into.
-/
import AlertRelay.Network
import AlertRelay.Proofs.Faults
import AlertRelay.Proofs.Text.Cut
import AlertRelay.Url.Reader
import Mathlib.Data.List.TakeWhile

namespace AlertRelay

/-! ### Characters -/

namespace Host

/-- Whether a character stands for itself in the host of a foreign scheme. -/
def isPlain (c : Char) : Bool :=
  !isForbidden c && !Percent.inAny c

theorem not_forbidden_of_isPlain {c : Char} (h : isPlain c = true) : isForbidden c = false := by
  simp only [isPlain, Bool.and_eq_true, Bool.not_eq_true'] at h
  exact h.1

theorem not_inAny_of_isPlain {c : Char} (h : isPlain c = true) : Percent.inAny c = false := by
  simp only [isPlain, Bool.and_eq_true, Bool.not_eq_true'] at h
  exact h.2

/-- A character that is plain is none that is not. -/
theorem ne_of_isPlain {c d : Char} (h : isPlain c = true) (hd : isPlain d = false) : c ≠ d := by
  rintro rfl
  rw [h] at hd
  cases hd

theorem blank_lt_of_isPlain {c : Char} (h : isPlain c = true) : ' ' < c := by
  have hany := not_inAny_of_isPlain h
  have hne : c ≠ ' ' := ne_of_isPlain h (by decide)
  simp only [Percent.inAny, Bool.or_eq_false_iff, decide_eq_false_iff_not, Char.not_lt] at hany
  exact Char.not_le.1 fun hle => hne (Char.le_antisymm hle hany.1)

end Host

namespace Percent

/-- What has nothing to escape stays as it is. -/
theorem encode_eq_self {escaped : Char → Bool} {cs : List Char}
    (h : ∀ c ∈ cs, escaped c = false) : encode escaped cs = cs := by
  induction cs with
  | nil => rfl
  | cons c cs ih =>
    rw [List.forall_mem_cons] at h
    have hrest := ih h.2
    simp only [encode] at hrest ⊢
    rw [List.flatMap_cons, hrest, h.1]
    rfl

/-- A byte is escaped with characters that are plain. -/
theorem isPlain_of_mem_byte {b : UInt8} {c : Char} (h : c ∈ byte b) : Host.isPlain c = true := by
  have hdigit : ∀ n < 16, Host.isPlain (Hexadecimal.upperDigit n) = true := by decide
  have hbyte : b.toNat < 256 := b.toNat_lt
  simp only [byte, List.mem_cons, List.not_mem_nil, or_false] at h
  rcases h with rfl | rfl | rfl
  · decide
  · exact hdigit _ (by omega)
  · exact hdigit _ (by omega)

/-- Without forbidden characters, nothing but plain ones is written. -/
theorem isPlain_of_mem_encode {cs : List Char} (hcs : ∀ c ∈ cs, Host.isForbidden c = false)
    {c : Char} (h : c ∈ encode inAny cs) : Host.isPlain c = true := by
  obtain ⟨d, hd, hc⟩ := List.mem_flatMap.1 h
  cases hany : inAny d with
  | true =>
    rw [hany, if_pos rfl] at hc
    obtain ⟨b, -, hb⟩ := List.mem_flatMap.1 hc
    exact isPlain_of_mem_byte hb
  | false =>
    rw [hany, if_neg (by decide), List.mem_singleton] at hc
    subst hc
    simp [Host.isPlain, hany, hcs c hd]

end Percent

/-! ### Hosts -/

namespace Ip

/-- An address of sixteen bytes has eight groups. -/
theorem length_of_v6? {cs : List Char} {gs : List Nat} (h : v6? cs = some gs) : gs.length = 8 := by
  unfold v6? at h
  split at h
  · split at h
    · cases h
    · split at h
      · cases h
        assumption
      · cases h
  · split at h
    · dsimp only at h
      split at h
      · cases h
        simp only [List.length_append, List.length_replicate]
        omega
      · cases h
    · cases h

theorem colon_mem_groupsText {g g' : Nat} {gs : List Nat} :
    ':' ∈ (groupsText (g :: g' :: gs)).toList := by
  simp [groupsText]

/-- Groups are shown with a colon between them. -/
theorem colon_mem_v6Text {gs : List Nat} (h : 2 ≤ gs.length) : ':' ∈ (v6Text gs).toList := by
  simp only [v6Text]
  split
  · match gs, h with
    | _ :: _ :: _, _ => exact colon_mem_groupsText
  · simp

end Ip

namespace Host

/-- **The host of a foreign scheme** is shown in plain characters, or with colons. -/
theorem plain_or_colon {cs : List Char} {h : Host} (hparse : parseForeign cs = .ok h) :
    (∀ c ∈ (Network.hostName h).toList, isPlain c = true) ∨ ':' ∈ (Network.hostName h).toList := by
  unfold parseForeign at hparse
  split at hparse
  · unfold bracketed at hparse
    split at hparse
    · split at hparse
      · rename_i gs hgs
        cases hparse
        exact .inr (Ip.colon_mem_v6Text (by rw [Ip.length_of_v6? hgs]; decide))
      · cases hparse
    · cases hparse
  · split at hparse
    · cases hparse
    · rename_i hallowed
      cases hparse
      refine .inl fun c hc => ?_
      rw [Network.hostName, String.toList_ofList] at hc
      exact Percent.isPlain_of_mem_encode (by simpa using hallowed) hc

/-- **Plain characters** are the name of a host. -/
theorem parseForeign_of_plain {cs : List Char} (h : ∀ c ∈ cs, isPlain c = true) :
    parseForeign cs = .ok (.name (String.ofList cs)) := by
  have hallowed : cs.any isForbidden = false := by
    simpa using fun c hc => not_forbidden_of_isPlain (h c hc)
  unfold parseForeign
  split
  · exact absurd rfl (ne_of_isPlain (h '[' List.mem_cons_self) (by decide))
  · rw [hallowed, if_neg (by decide),
      Percent.encode_eq_self fun c hc => not_inAny_of_isPlain (h c hc)]

end Host

namespace Url

/-! ### Schemes -/

theorem dropBlanks_append {front : List Char} (hne : front ≠ []) (h : ∀ c ∈ front, ' ' < c)
    (rest : List Char) : dropBlanks (front ++ rest) = front ++ rest := by
  obtain ⟨c, front, rfl⟩ := List.exists_cons_of_ne_nil hne
  have hc : ¬ c ≤ ' ' := Char.not_le.2 (h c List.mem_cons_self)
  simp [dropBlanks, hc]

/-- Characters that are no blanks are no tabs or line breaks either. -/
theorem filter_eq_self {cs : List Char} (h : ∀ c ∈ cs, ' ' < c) :
    cs.filter (fun c => c ≠ '\t' && c ≠ '\n' && c ≠ '\r') = cs := by
  rw [List.filter_eq_self]
  intro c hc
  have hlt := h c hc
  simp only [ne_eq, decide_not, Bool.and_eq_true, Bool.not_eq_true', decide_eq_false_iff_not]
  refine ⟨⟨?_, ?_⟩, ?_⟩ <;> rintro rfl <;> exact absurd hlt (by decide)

/-- The characters at the front of a text count, if they are no blanks. -/
theorem exists_counted {front : List Char} (hne : front ≠ []) (h : ∀ c ∈ front, ' ' < c)
    (rest : List Char) : ∃ left, counted (front ++ rest) = front ++ left := by
  have hback : dropBlanks (front.reverse ++ []) = front.reverse ++ [] :=
    dropBlanks_append (by simpa using hne) (by simpa using h) []
  obtain ⟨left, hleft⟩ : ∃ left, dropBlanks (front ++ rest).reverse = left ++ front.reverse := by
    rw [List.reverse_append, dropBlanks, List.dropWhile_append]
    split
    · exact ⟨[], by simpa [dropBlanks] using hback⟩
    · exact ⟨_, rfl⟩
  refine ⟨left.reverse.filter fun c => c ≠ '\t' && c ≠ '\n' && c ≠ '\r', ?_⟩
  rw [counted, dropBlanks_append hne h, hleft, List.reverse_append, List.reverse_reverse,
    List.filter_append, filter_eq_self h]

/-- A text without blanks counts as a whole. -/
theorem counted_eq_self {cs : List Char} (hne : cs ≠ []) (h : ∀ c ∈ cs, ' ' < c) :
    counted cs = cs := by
  have hfront := dropBlanks_append hne h []
  have hback : dropBlanks (cs.reverse ++ []) = cs.reverse ++ [] :=
    dropBlanks_append (by simpa using hne) (by simpa using h) []
  rw [List.append_nil] at hfront hback
  rw [counted, hfront, hback, List.reverse_reverse, filter_eq_self h]

theorem cutScheme_redis (rest : List Char) :
    cutScheme ("redis://".toList ++ rest) = some ("redis", '/' :: '/' :: rest) := by
  rfl

theorem blank_lt_redis : ∀ c ∈ "redis://".toList, ' ' < c := by
  simp

/-- A plain character is within an authority. -/
theorem within_of_isPlain {c : Char} (h : Host.isPlain c = true) :
    ' ' < c ∧ endsAuthority .foreign c = false := by
  have hslash : c ≠ '/' := Host.ne_of_isPlain h (by decide)
  have hquery : c ≠ '?' := Host.ne_of_isPlain h (by decide)
  have hfragment : c ≠ '#' := Host.ne_of_isPlain h (by decide)
  refine ⟨Host.blank_lt_of_isPlain h, ?_⟩
  simp [endsAuthority, isSlash, SchemeKind.isSpecial, hslash, hquery, hfragment]

/-- Whatever follows the scheme, an authority is read from the beginning of it. -/
theorem exists_authority_of_parse {rest : String} {u : Url}
    (h : parse ("redis://" ++ rest) = .ok u) : ∃ own after a left,
      readAuthority .foreign own after = .ok (a, left) ∧ u.authority = some a := by
  obtain ⟨left, hleft⟩ := exists_counted (by decide) blank_lt_redis rest.toList
  simp only [parse, String.toList_append, hleft, cutScheme_redis] at h
  obtain ⟨u₀, hscheme, h⟩ := bind_eq_ok.1 h
  cases h
  have hslash : ('/' :: '/' :: left).takeWhile (fun c => c ≠ '?' && c ≠ '#') =
      '/' :: '/' :: left.takeWhile (fun c => c ≠ '?' && c ≠ '#') := by
    simp
  rw [hslash] at hscheme
  obtain ⟨⟨a, rest'⟩, hauthority, hdone⟩ := bind_eq_ok.1 hscheme
  cases hdone
  exact ⟨_, _, a, rest', hauthority, rfl⟩

/-- Up to a path, and without a query and a fragment, it is read from all of it. -/
theorem parse_of_plain {own path : List Char}
    (hown : ∀ c ∈ own, ' ' < c ∧ endsAuthority .foreign c = false)
    (hpath : ∀ c ∈ path, ' ' < c ∧ c ≠ '?' ∧ c ≠ '#') :
    parse ("redis://" ++ String.ofList own ++ "/" ++ String.ofList path) =
      (readAuthority .foreign own ('/' :: path)).bind fun (a, rest) =>
        .ok { scheme := "redis", authority := some a,
              path := .names (readPath .foreign (rest ++ '/' :: path)) } := by
  have htext : ("redis://" ++ String.ofList own ++ "/" ++ String.ofList path).toList =
      "redis://".toList ++ (own ++ '/' :: path) := by
    simp
  have hlt : ∀ c ∈ "redis://".toList ++ (own ++ '/' :: path), ' ' < c := by
    intro c hc
    simp only [List.mem_append, List.mem_cons] at hc
    rcases hc with hc | hc | rfl | hc
    · exact blank_lt_redis c (by simpa using hc)
    · exact (hown c hc).1
    · decide
    · exact (hpath c hc).1
  have hmain : ('/' :: '/' :: (own ++ '/' :: path)).takeWhile (fun c => c ≠ '?' && c ≠ '#') =
      '/' :: '/' :: (own ++ '/' :: path) := by
    refine takeWhile_eq_self fun c hc => ?_
    simp only [List.mem_cons, List.mem_append] at hc
    rcases hc with rfl | rfl | hc | rfl | hc
    · decide
    · decide
    · have hends := (hown c hc).2
      simp only [endsAuthority, Bool.or_eq_false_iff, decide_eq_false_iff_not] at hends
      simp [hends.1.2, hends.2]
    · decide
    · simpa using (hpath c hc).2
  have hscheme : ∀ cs after, readScheme "redis" ('/' :: '/' :: cs) after =
      readAt .foreign "redis" cs after := fun _ _ => rfl
  have htake : (own ++ '/' :: path).takeWhile (fun c => !endsAuthority .foreign c) = own :=
    takeWhile_append_of_stop (fun c hc => by simp [(hown c hc).2])
      (by simp [endsAuthority, isSlash])
  simp only [parse, htext, counted_eq_self (by simp) hlt, cutScheme_redis, hmain, List.drop_length,
    hscheme, readAt, htake, List.drop_left, List.append_nil]
  cases readAuthority .foreign own ('/' :: path) <;> rfl

/-! ### Authorities -/

/-- **The host of an authority** in a foreign scheme is the host of such a scheme. -/
theorem parseForeign_of_readAuthority {cs after left : List Char} {a : Authority}
    (h : readAuthority .foreign cs after = .ok (a, left)) :
    ∃ name, Host.parseForeign name = .ok a.host := by
  simp only [readAuthority, SchemeKind.isSpecial, Bool.false_eq_true, if_false] at h
  split at h
  · cases h
  split at h
  · cases h
  obtain ⟨host, hhost, h⟩ := bind_eq_ok.1 h
  obtain ⟨⟨port, rest⟩, -, h⟩ := bind_eq_ok.1 h
  dsimp only at h
  split at h
  · cases h
  cases h
  exact ⟨_, hhost⟩

/-- A host ends at the first colon. -/
theorem cutHost_append {host : List Char} (h : ∀ c ∈ host, Host.isPlain c = true)
    (rest : List Char) : cutHost false (host ++ ':' :: rest) = (host, ':' :: rest) := by
  induction host with
  | nil => rfl
  | cons c host ih =>
    rw [List.forall_mem_cons] at h
    have hcolon : c ≠ ':' := Host.ne_of_isPlain h.1 (by decide)
    have hopen : c ≠ '[' := Host.ne_of_isPlain h.1 (by decide)
    simp [cutHost, hcolon, hopen, ih h.2]

theorem cutUser_eq_none {cs : List Char} (h : '@' ∉ cs) : cutUser cs = none := by
  have hdrop : cs.reverse.dropWhile (· ≠ '@') = [] := by
    rw [List.dropWhile_eq_nil_iff]
    intro c hc
    rw [decide_eq_true_iff]
    rintro rfl
    exact h (List.mem_reverse.1 hc)
  simp only [cutUser, hdrop]

/-- **A plain host and a port** are an authority if the port is one. -/
theorem readAuthority_of_plain {host port : List Char} (hne : host ≠ [])
    (hhost : ∀ c ∈ host, Host.isPlain c = true) (hport : '@' ∉ port) (after : List Char) :
    readAuthority .foreign (host ++ ':' :: port) after =
      (readPort none (':' :: port)).bind fun (p, rest) =>
        .ok ({ host := .name (String.ofList host), port := p }, rest) := by
  have huser : cutUser (host ++ ':' :: port) = none := by
    apply cutUser_eq_none
    simp only [List.mem_append, List.mem_cons, not_or]
    exact ⟨fun hmem => absurd rfl (Host.ne_of_isPlain (hhost _ hmem) (by decide)), by decide, hport⟩
  have hnobody : readUser [] = ("", "") := rfl
  simp only [readAuthority, huser, Option.getD_none, Option.isSome_none, Bool.false_and,
    Bool.false_eq_true, if_false, cutHost_append hhost, hne, decide_false, SchemeKind.isSpecial,
    Host.parseForeign_of_plain hhost, hnobody, ne_eq, not_true_eq_false, Bool.or_self,
    Bool.and_false]
  cases readPort none (':' :: port) <;> rfl

end Url

end AlertRelay
