import Winternitz.Proofs.Recognition

set_option autoImplicit false

namespace Winternitz.Document

open Json

theorem Rendering.skipValue {document : Document} {text : List Char}
    (rendering : document.Rendering text) :
    ∃ after, Blank after ∧ ∀ more, Json.skipValue (text ++ more) = .ok (after ++ more) := by
  obtain ⟨blank, spelled, blankAfter⟩ := rendering
  have brackets := brackets_of_recordText valued_parametersText valued_chainsText spelled
  refine ⟨_, blankAfter, fun more => ?_⟩
  simpa using brackets.skipValue blank (_ ++ more)

theorem Rendering.append {document : Document} {text more : List Char}
    (rendering : document.Rendering text) (blank : Blank more) :
    document.Rendering (text ++ more) := by
  obtain ⟨blankBefore, spelled, blankAfter⟩ := rendering
  rw [List.append_assoc, List.append_assoc]
  exact .blanks blankBefore spelled (blank_append blankAfter blank)

-- Where the value of the shorter text ends, the value of the longer one has ended.
theorem blank_of_renderings {first second : Document} {text more : List Char}
    (short : first.Rendering text) (long : second.Rendering (text ++ more)) : Blank more := by
  obtain ⟨after, -, skipShort⟩ := short.skipValue
  obtain ⟨last, blank, skipLong⟩ := long.skipValue
  have skipped := skipLong []
  rw [List.append_nil, List.append_nil, skipShort more, Except.ok.injEq] at skipped
  intro c member
  apply blank c
  rw [← skipped]
  exact List.mem_append_right after member

/-- A text that is cut within a document, or followed by more than blanks, is refused; blanks that
follow change nothing. -/
theorem ofText_append (text more : String) :
    (∀ document, ofText (text ++ more) = .ok document → ¬ Blank more.toList →
      ∃ error, ofText text = .error (.json error)) ∧
    ∀ document, ofText text = .ok document →
      (¬ Blank more.toList → ∃ error, ofText (text ++ more) = .error (.json error)) ∧
      (Blank more.toList → ofText (text ++ more) = .ok document) := by
  have blank {first second : Document} (short : ofText text = .ok first)
      (long : ofText (text ++ more) = .ok second) : Blank more.toList := by
    rw [ofText_eq_ok_iff] at short long
    rw [String.toList_append] at long
    exact blank_of_renderings short long
  refine ⟨?cut, fun document read => ⟨?followed, ?blanks⟩⟩
  case cut =>
    intro document read notBlank
    cases ofText_cases text with
    | inl accepted =>
      obtain ⟨shorter, accepted⟩ := accepted
      exact absurd (blank accepted read) notBlank
    | inr refused => exact refused
  case followed =>
    intro notBlank
    cases ofText_cases (text ++ more) with
    | inl accepted =>
      obtain ⟨longer, accepted⟩ := accepted
      exact absurd (blank read accepted) notBlank
    | inr refused => exact refused
  case blanks =>
    intro blankMore
    rw [ofText_eq_ok_iff] at read ⊢
    rw [String.toList_append]
    exact read.append blankMore

def front : String := "\x7b\"note\": [\x7b\"\x7d\": -1"

def back : String :=
  "e5\x7d], \"\\u0063hains\": [\"\\uD83D\\uDE00\", null], \"parameters\": [2, 32]\x7d "

theorem front_append_back : front ++ back = reordered := by decide

theorem ofText_append_of_front :
    (ofText (front ++ back) = .ok ⟨some ⟨2, 32⟩, some [some "😀", none]⟩ ∧ ¬ Blank back.toList ∧
      ∃ error, ofText front = .error (.json error)) ∧
    (¬ Blank "0".toList ∧ ∃ error, ofText (front ++ back ++ "0") = .error (.json error)) ∧
    Blank "\n".toList ∧
      ofText (front ++ back ++ "\n") = .ok ⟨some ⟨2, 32⟩, some [some "😀", none]⟩ := by
  have read : ofText (front ++ back) = .ok ⟨some ⟨2, 32⟩, some [some "😀", none]⟩ := by
    rw [front_append_back]
    exact ofText_eq_ok_iff.mpr rendering_reordered
  have notBlank : ¬ Blank back.toList := by simp [Blank, back]
  have digit : ¬ Blank "0".toList := by simp [Blank]
  have newline : Blank "\n".toList := by simp [Blank]
  exact ⟨⟨read, notBlank, (ofText_append front back).1 _ read notBlank⟩,
    ⟨digit, ((ofText_append (front ++ back) "0").2 _ read).1 digit⟩, newline,
    ((ofText_append (front ++ back) "\n").2 _ read).2 newline⟩

end Winternitz.Document
