import InfoFlow.Text.Terminal
/-!
# Texts without terminal sequences

A sequence starts with an escape character, so what stands in front of the first one is kept.
-/

namespace InfoFlow.Text

theorem dropSequencesAfter_append {cs : List Char} (h : sequenceStart ∉ cs) (rest : List Char) :
    dropSequencesAfter [] (cs ++ rest) = cs ++ dropSequencesAfter [] rest := by
  induction cs with
  | nil => rfl
  | cons c cs ih =>
    have hc : c ≠ sequenceStart := fun hc => h (hc ▸ List.mem_cons_self)
    have hcs : sequenceStart ∉ cs := fun hcs => h (List.mem_cons_of_mem c hcs)
    rw [List.cons_append, dropSequencesAfter, List.isEmpty_nil, if_pos rfl, if_neg hc, ih hcs]
    rfl

theorem toList_dropSequences_append {s : String} (h : sequenceStart ∉ s.toList) (t : String) :
    (dropSequences (s ++ t)).toList = s.toList ++ (dropSequences t).toList := by
  unfold dropSequences
  rw [String.toList_ofList, String.toList_ofList, String.toList_append,
    dropSequencesAfter_append h]

/-- Up to the first character that may start a sequence, a text is written as it is. -/
structure KeepsPlain (echo : String → String) : Prop where
  empty : echo "" = ""
  append {s : String} (h : sequenceStart ∉ s.toList) (t : String) : echo (s ++ t) = s ++ echo t

theorem KeepsPlain.eq_self {echo : String → String} (hecho : KeepsPlain echo) {s : String}
    (h : sequenceStart ∉ s.toList) : echo s = s := by
  have hs := hecho.append h ""
  rwa [hecho.empty, String.append_empty] at hs

theorem keepsPlain_dropSequences : KeepsPlain dropSequences where
  empty := rfl
  append h t := String.toList_inj.1 (by rw [toList_dropSequences_append h, String.toList_append])

end InfoFlow.Text
