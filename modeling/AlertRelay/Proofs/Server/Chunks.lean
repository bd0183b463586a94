/-
AlertRelay/Proofs/Server/Chunks.lean

How a body is cut does not show.

Whoever posts does not choose how the body is cut on its way.  The sum of its chunks decides whether
it is too large (`Body.read_eq`), and what is done with a body that is not is done with all of it at
once.  So two bodies with the same bytes and the same end are dealt with alike, and answered alike
(`Store.chunks_invisible`).

A sender who is told that the body is too large can rely on it.  The complaint about the size is
told apart by its text from everything else that is answered (`PostFault.message_eq_tooLarge_iff`):
most faults begin in other words, and those of JSON, which begin in the same, go on in others.
-/
import AlertRelay.Proofs.Server.Post

namespace AlertRelay

/-! ### Complaints -/

/-- Texts that begin differently are different. -/
theorem append_ne_append {a b : String} (n : Nat) (ha : n ≤ a.toList.length)
    (hb : n ≤ b.toList.length) (hne : a.toList.take n ≠ b.toList.take n) (x y : String) :
    a ++ x ≠ b ++ y := by
  intro he
  apply hne
  have htake := congrArg (fun s => s.toList.take n) he
  simpa [List.take_append_of_le_length ha, List.take_append_of_le_length hb] using htake

theorem head?_toList_append {a : String} {c : Char} (h : a.toList.head? = some c) (b : String) :
    (a ++ b).toList.head? = some c := by
  rw [String.toList_append, List.head?_append, h]
  rfl

theorem getLast?_toList_append {b : String} {c : Char} (h : b.toList.getLast? = some c)
    (a : String) : (a ++ b).toList.getLast? = some c := by
  rw [String.toList_append, List.getLast?_append, h]
  rfl

namespace Json

/-- No cause begins as the complaint about the size does. -/
theorem Cause.text_begins (c : Cause) :
    ∃ first, c.text.toList.head? = some first ∧ first ≠ 'b' := by
  cases c with
  | invalidType found wanted =>
    exact ⟨'i', head?_toList_append (head?_toList_append (head?_toList_append rfl _) _) _,
      by decide⟩
  | invalidValue n wanted =>
    exact ⟨'i', head?_toList_append (head?_toList_append (head?_toList_append rfl _) _) _,
      by decide⟩
  | duplicateField name =>
    exact ⟨'d', head?_toList_append (head?_toList_append rfl _) _, by decide⟩
  | _ => exact ⟨_, rfl, by decide⟩

theorem Complaint.message_ne_tooLarge (c : Complaint) :
    c.message ≠ BodyFault.tooLarge.message := by
  obtain ⟨first, htext, hfirst⟩ := c.cause.text_begins
  have hmessage : c.message.toList.head? = some first := by
    unfold message
    cases c.place with
    | none => exact htext
    | some p => exact head?_toList_append htext _
  have htooLarge : BodyFault.tooLarge.message.toList.head? = some 'b' := by decide +kernel
  intro he
  rw [he, htooLarge] at hmessage
  exact hfirst (Option.some.inj hmessage).symm

end Json

/-- Nothing that cuts a body off is told as the complaint about the size is: what the system tells
may begin in any words, but it ends with a bracket. -/
theorem BodyCut.message_ne_tooLarge (c : BodyCut) : c.message ≠ BodyFault.tooLarge.message := by
  cases c with
  | incomplete cause =>
    have hfirst : (incomplete cause).message.toList.head? = some 'p' := by
      cases cause with
      | none => decide +kernel
      | some cause => exact head?_toList_append (head?_toList_append (by decide +kernel) _) _
    have htooLarge : BodyFault.tooLarge.message.toList.head? = some 'b' := by decide +kernel
    intro he
    rw [he, htooLarge] at hfirst
    cases hfirst
  | broken cause =>
    have hlast : (broken cause).message.toList.getLast? = some ')' :=
      getLast?_toList_append rfl _
    have htooLarge : BodyFault.tooLarge.message.toList.getLast? = some 's' := by decide +kernel
    intro he
    rw [he, htooLarge] at hlast
    cases hlast
  | encodingCorrupted => decide +kernel
  | overflow => decide +kernel
  | unknownLength => decide +kernel

/-- **The complaint about the size** is made about nothing else. -/
theorem PostFault.message_eq_tooLarge_iff {f : PostFault} :
    f.message = (body .tooLarge).message ↔ f = .body .tooLarge := by
  refine ⟨fun he => ?_, fun hf => congrArg message hf⟩
  cases f with
  | body f =>
    cases f with
    | tooLarge => rfl
    | cut c => exact absurd ((String.append_right_inj _).1 he) c.message_ne_tooLarge
  | payload r =>
    cases r with
    | json c => exact absurd ((String.append_right_inj _).1 he) c.message_ne_tooLarge
    | alarmMessage c =>
      exact absurd he (append_ne_append 16 (by decide) (by decide) (by decide) _ _)
  | confirmation f => exact absurd he (append_ne_append 16 (by decide) (by decide) (by decide) _ _)
  | store e =>
    have hother : e.message ≠ (body .tooLarge).message := by
      cases e with
      | saturated waited =>
        show "State store intake is saturated (waited " ++ waited.text ++ ")" ≠ _
        rw [String.append_assoc]
        exact append_ne_append 1 (by decide) (by decide) (by decide) _ _
      | closed => decide +kernel
    exact absurd he hother

namespace Response

/-- The complaint about a body that is too large. -/
def tooLarge : Response :=
  plain "Error: Couldn't read request body: body is larger than 1048576 bytes\n"

/-- The complaint about a body that has been cut off. -/
def cutOff (c : BodyCut) : Response :=
  plain ("Error: Couldn't read request body: " ++ c.message ++ "\n")

theorem ofPost_tooLarge : ofPost (.refused (.body .tooLarge)) = tooLarge := by
  decide +kernel

theorem ofPost_cut (c : BodyCut) : ofPost (.refused (.body (.cut c))) = cutOff c := by
  have hwords : "Error: " ++ "Couldn't read request body: " =
      "Error: Couldn't read request body: " := by decide +kernel
  have htext : "Error: " ++ ("Couldn't read request body: " ++ c.message) ++ "\n" =
      "Error: Couldn't read request body: " ++ c.message ++ "\n" := by
    rw [← String.append_assoc, hwords]
  exact congrArg plain htext

/-- **Who is told that a body is too large** has posted one that is. -/
theorem ofPost_eq_tooLarge_iff {result : PostResult} :
    ofPost result = tooLarge ↔ result = .refused (.body .tooLarge) := by
  refine ⟨fun he => ?_, fun h => h ▸ ofPost_tooLarge⟩
  rw [← ofPost_tooLarge] at he
  cases result with
  | cached s =>
    have hcomplaint : ofPost (.refused (.body .tooLarge)) =
        plain ("Error: " ++ ((PostFault.body .tooLarge).message ++ "\n")) := by
      rw [ofPost, String.append_assoc]
    exact absurd (he.trans hcomplaint) (echo_ne_complaint s.json _)
  | confirmed => cases he
  | refused f =>
    have htext := congrArg Response.text he
    have hmessage : f.message = (PostFault.body .tooLarge).message :=
      (String.append_right_inj _).1 ((String.append_left_inj _).1 htext)
    rw [PostFault.message_eq_tooLarge_iff.1 hmessage]

end Response

namespace Store

variable (s : Store) (n : Network) (now : Int64) (moments : List Action) (b : Body)

/-! ### Bodies in chunks -/

/-- What is done with all the bytes of a body. -/
def postWhole (raw : Bytes) : Posted :=
  match normalize raw now with
  | .error r => { result := .refused (.payload r), store := s }
  | .ok (.state state _) => s.cachePosted state moments
  | .ok (.confirmation url) => s.confirmPosted n url

/-- **A post** in one equation: nothing is asked of the chunks but what they hold together. -/
theorem post_eq :
    s.post n now moments b =
      if Body.limit < b.chunks.flatten.length then
        { result := .refused (.body .tooLarge), store := s }
      else match b.cut with
        | some c => { result := .refused (.body (.cut c)), store := s }
        | none => s.postWhole n now moments b.chunks.flatten := by
  unfold post
  rw [Body.read_eq]
  by_cases hlong : Body.limit < b.chunks.flatten.length
  · rw [if_pos hlong, if_pos hlong]
  · rw [if_neg hlong, if_neg hlong]
    cases b.cut <;> rfl

/-- A body that has been gathered is not refused for its size. -/
theorem postWhole_result_ne (raw : Bytes) (f : BodyFault) :
    (s.postWhole n now moments raw).result ≠ .refused (.body f) := by
  unfold postWhole cachePosted confirmPosted
  split
  · simp
  · split <;> simp
  · split <;> simp

theorem post_result_eq_tooLarge_iff :
    (s.post n now moments b).result = .refused (.body .tooLarge) ↔
      Body.limit < b.chunks.flatten.length := by
  rw [post_eq]
  by_cases hlong : Body.limit < b.chunks.flatten.length
  · rw [if_pos hlong]
    exact iff_of_true rfl hlong
  · rw [if_neg hlong]
    refine iff_of_false ?_ hlong
    cases b.cut with
    | some c => simp
    | none => exact s.postWhole_result_ne n now moments _ _

/-- How a body is dealt with and answered, if it does not matter how it is cut. -/
structure ChunksDoNotShow : Prop where
  /-- The answer, the store and the network are as for one chunk. -/
  single : s.post n now moments b = s.post n now moments ⟨[b.chunks.flatten], b.cut⟩
  /-- The size is complained about exactly if all bytes that have arrived are too many. -/
  tooLarge : Response.ofPost (s.post n now moments b).result = .tooLarge ↔
    2 ^ 20 < b.chunks.flatten.length
  /-- All bytes are looked at together. -/
  whole : b.chunks.flatten.length ≤ 2 ^ 20 → b.cut = none →
    s.post n now moments b = s.postWhole n now moments b.chunks.flatten
  cutOff : b.chunks.flatten.length ≤ 2 ^ 20 → ∀ c, b.cut = some c →
    Response.ofPost (s.post n now moments b).result = .cutOff c
  /-- Nothing else happens then. -/
  unread : 2 ^ 20 < b.chunks.flatten.length ∨ b.cut ≠ none →
    (s.post n now moments b).store = s ∧ (s.post n now moments b).asked = none

theorem chunksDoNotShow : s.ChunksDoNotShow n now moments b where
  single := by
    rw [post_eq, post_eq, List.flatten_singleton]
  tooLarge := by
    rw [Response.ofPost_eq_tooLarge_iff, post_result_eq_tooLarge_iff]
    rfl
  whole hle hcut := by
    have hshort : ¬ Body.limit < b.chunks.flatten.length := Nat.not_lt.2 hle
    rw [post_eq, if_neg hshort, hcut]
  cutOff hle c hcut := by
    have hshort : ¬ Body.limit < b.chunks.flatten.length := Nat.not_lt.2 hle
    rw [post_eq, if_neg hshort, hcut]
    exact Response.ofPost_cut c
  unread h := by
    rw [post_eq]
    by_cases hlong : Body.limit < b.chunks.flatten.length
    · rw [if_pos hlong]
      exact ⟨rfl, rfl⟩
    · obtain ⟨c, hcut⟩ := Option.ne_none_iff_exists'.1 (h.resolve_left hlong)
      rw [if_neg hlong, hcut]
      exact ⟨rfl, rfl⟩

/-- **How a body is cut does not show**, in no answer and on no store: it is refused for its size
exactly if all its bytes are too many, then for being cut off, and otherwise dealt with as a
whole. -/
theorem chunks_invisible (path : String) (r : Request) :
    s.answer path n now moments r =
        s.answer path n now moments { r with body := ⟨[r.body.chunks.flatten], r.body.cut⟩ } ∧
      s.ChunksDoNotShow n now moments r.body := by
  have hposted := s.chunksDoNotShow n now moments r.body
  refine ⟨?_, hposted⟩
  unfold answer
  dsimp only
  rw [hposted.single]

end Store

end AlertRelay
