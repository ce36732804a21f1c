import NextWord.Proofs.Resource.Usable
import NextWord.Proofs.Text.Joined

/-!
# Types as they are written

Reading the text of a type gives the type back if it has the arguments of its kind and no others,
none of them with blanks at its ends and no value with a comma. Whatever is read of a text has such
arguments. So a type is written in one form, which stands for all texts it is read of.
-/

namespace NextWord

theorem AttributeKind.isTrimmed_text (kind : AttributeKind) :
    Text.IsTrimmed kind.text.toList ∧ kind.text.toList ≠ [] ∧ ':' ∉ kind.text.toList := by
  have hends : kind.text.toList.head?.all (fun c => !Text.isBlank c) = true ∧
      kind.text.toList.getLast?.all (fun c => !Text.isBlank c) = true ∧
      kind.text.toList ≠ [] ∧ ':' ∉ kind.text.toList := by
    cases kind <;> decide
  obtain ⟨hhead, hlast, hne, hcolon⟩ := hends
  exact ⟨⟨by simpa [Option.all_eq_true] using hhead, by simpa [Option.all_eq_true] using hlast⟩,
    hne, hcolon⟩

namespace AttributeType

theorem listedValues_intercalate {values : List String} (hne : values ≠ [])
    (h : ∀ v ∈ values, v ≠ "" ∧ ',' ∉ v.toList ∧ Text.IsTrimmed v.toList) :
    listedValues (",".intercalate values).toList = values := by
  have hcut : (",".intercalate values).toList.splitOn ',' = values.map String.toList := by
    rw [String.toList_intercalate]
    refine List.splitOn_intercalate ',' (fun piece hpiece => ?_) (by simpa using hne)
    obtain ⟨v, hv, rfl⟩ := List.mem_map.mp hpiece
    exact (h v hv).2.1
  rw [listedValues, hcut, List.filterMap_map]
  refine (List.filterMap_congr fun v hv => ?_).trans List.filterMap_some
  obtain ⟨proper, -, trimmed⟩ := h v hv
  simp [Text.strip_of_isTrimmed trimmed, String.toList_eq_nil_iff, proper]

theorem isTrimmed_intercalate {values : List String} (hne : values ≠ [])
    (h : ∀ v ∈ values, v ≠ "" ∧ ',' ∉ v.toList ∧ Text.IsTrimmed v.toList) :
    ",".intercalate values ≠ "" ∧ Text.IsTrimmed (",".intercalate values).toList := by
  rw [ne_eq, ← String.toList_eq_nil_iff, String.toList_intercalate]
  refine Text.isTrimmed_intercalate _ (by simpa using hne) fun piece hpiece => ?_
  obtain ⟨v, hv, rfl⟩ := List.mem_map.mp hpiece
  obtain ⟨proper, -, trimmed⟩ := h v hv
  exact ⟨String.toList_eq_nil_iff.not.mpr proper, trimmed⟩

/-- The name of a kind and the argument behind its colon are read as they were written. -/
theorem cutOnce_strip_argument (kind : AttributeKind) {argument : String} (hne : argument ≠ "")
    (h : Text.IsTrimmed argument.toList) :
    Text.cutOnce ':' (Text.strip (kind.text ++ ":" ++ argument).toList) =
      (kind.text.toList, argument.toList) := by
  obtain ⟨htrimmed, kind_ne, hcolon⟩ := kind.isTrimmed_text
  have argument_ne : argument.toList ≠ [] := fun hnil => hne (String.toList_eq_nil_iff.mp hnil)
  rw [String.toList_append, String.toList_append,
    Text.strip_of_isTrimmed (htrimmed.append h kind_ne argument_ne _), List.append_assoc]
  exact Text.cutOnce_append_cons hcolon argument.toList

theorem cutOnce_strip_kind (kind : AttributeKind) :
    Text.cutOnce ':' (Text.strip kind.text.toList) = (kind.text.toList, []) := by
  obtain ⟨htrimmed, -, hcolon⟩ := kind.isTrimmed_text
  rw [Text.strip_of_isTrimmed htrimmed, Text.cutOnce_of_not_mem hcolon]

theorem parse_text {t : AttributeType} (h : t.IsProper) : parse t.text = .ok t := by
  obtain ⟨kind, values, target⟩ := t
  cases kind with
  | enum =>
    obtain ⟨values_ne, hvalues⟩ := h.values rfl
    obtain rfl : target = "" := h.no_target (by simp)
    obtain ⟨hne, htrimmed⟩ := isTrimmed_intercalate values_ne hvalues
    simp only [parse, text, cutOnce_strip_argument _ hne htrimmed, String.ofList_toList,
      AttributeKind.ofText?_text, listedValues_intercalate values_ne hvalues]
  | resourceRef =>
    obtain ⟨target_ne, htarget⟩ := h.target rfl
    obtain rfl : values = [] := h.no_values (by simp)
    have hargument : target.toList ≠ [] := String.toList_eq_nil_iff.not.mpr target_ne
    simp only [parse, text, cutOnce_strip_argument _ target_ne htarget, String.ofList_toList,
      AttributeKind.ofText?_text, Text.strip_of_isTrimmed htarget]
  | _ =>
    obtain rfl : values = [] := h.no_values (by simp)
    obtain rfl : target = "" := h.no_target (by simp)
    simp only [parse, text, cutOnce_strip_kind, String.ofList_toList, AttributeKind.ofText?_text]

/-- An attribute whose type was read of a text: the text of its type is read as the same kind, with
the same values and the same target. -/
theorem parse_text_of_parse (source : String) (a : Attribute) (h : parse source = .ok a.type) :
    parse a.type.text = .ok a.type :=
  parse_text (isProper_of_parse h)

theorem parse_text_of_parse_sizes :
    parse " ENUM: mm ,, 3:4\tinch " = .ok ⟨.enum, ["mm", "3:4\tinch"], ""⟩ ∧
      parse "ENUM:mm,3:4\tinch" = .ok ⟨.enum, ["mm", "3:4\tinch"], ""⟩ :=
  have hparse : parse " ENUM: mm ,, 3:4\tinch " = .ok ⟨.enum, ["mm", "3:4\tinch"], ""⟩ := by
    decide +kernel
  ⟨hparse, parse_text_of_parse _ { key := "size", type := ⟨.enum, ["mm", "3:4\tinch"], ""⟩ } hparse⟩

end AttributeType
end NextWord
