import ParserAlgebra.Proofs.Simulation

/-!
# Repetition does not look at values

Whether a repetition goes on depends on the places that its parser comes to, never on the values
that it brings. It therefore makes no difference whether the values are changed one by one, as they
come, or all together at the end: the runs are the same, with the same reports. To change a value is
to be in step, where the values are related by the function that changes them, so this is a case of
what is known of two repetitions in step.
-/

namespace ParserAlgebra

variable {ν α β : Type} {mapper : α → β}

/-! ## Being in step with a changed copy -/

theorem Ending.related_map_iff {left : Ending α} {right : Ending β} :
    Ending.Related (fun value image => mapper value = image) left right ↔
      left.bind (fun value => .done (mapper value)) = right := by
  constructor
  · intro related
    cases related with
    | done sameImage => rw [← sameImage, bind]
    | aborted message => rfl
    | cutOff => rfl
  · rintro rfl
    cases left with
    | done value => exact .done rfl
    | aborted message => exact .aborted message
    | cutOff => exact .cutOff

theorem Run.log_map (mapper : α → β) (run : Run ν α) : (mapper <$> run).log = run.log := by
  obtain ⟨log, ending⟩ := run
  cases ending with
  | done value => exact List.append_nil log
  | aborted message => rfl
  | cutOff => rfl

theorem Run.related_map_iff {left : Run ν α} {right : Run ν β} :
    Run.Related (fun value image => mapper value = image) left right ↔ mapper <$> left = right := by
  constructor
  · intro related
    apply Run.ext
    · rw [log_map, related.log_eq]
    · rw [ending_map, Ending.related_map_iff.1 related.endings]
  · rintro rfl
    constructor
    · rw [log_map]
    · rw [Ending.related_map_iff, ending_map]

theorem Reply.related_map :
    Reply.Related (fun value image => mapper value = image) Eq Eq =
      fun (left : Reply α) (right : Reply β) => left.map mapper = right := by
  funext left right
  apply propext
  constructor
  · intro related
    cases related with
    | success sameImage sameRest => rw [← sameImage, ← sameRest, map]
    | failure sameMessage => rw [← sameMessage, map]
  · rintro rfl
    cases left with
    | success value rest => exact .success rfl rfl
    | failure message => exact .failure rfl

/-- The second parser is the first one with its values changed just if the two are in step from each
place, where a value is related to what it is changed to. -/
theorem Parser.relatedBy_map_iff {left : Parser ν α} {right : Parser ν β} :
    Parser.RelatedBy (Run.Comparison.full ν) (fun value image => mapper value = image) Eq Eq
        left right ↔
      left.map mapper = right := by
  unfold Parser.RelatedBy
  rw [Reply.related_map]
  constructor
  · intro related
    ext1
    funext cursor
    rw [parse_map]
    exact Run.related_map_iff.1 (related cursor cursor rfl)
  · rintro rfl cursor _ rfl
    apply Run.related_map_iff.2
    rw [parse_map]

/-! ## Repetition -/

theorem forall₂_map_eq :
    List.Forall₂ (fun value image => mapper value = image) =
      fun (left : List α) (right : List β) => left.map mapper = right := by
  funext left right
  rw [← List.forall₂_map_left_iff, List.forall₂_eq_eq_eq]

/-- To change the values of a parser and then to repeat it is to repeat it and then to change the
values: from every place the two runs write the same, with the same reports and counts, and end in
the same way, whatever the parser does and wherever it leads. -/
theorem Parser.repetition_map (mapper : α → β) (parser : Parser ν α) :
    (parser.map mapper).many = parser.many.map (List.map mapper) ∧
    (parser.map mapper).some = parser.some.map (List.map mapper) := by
  have changed :
      Parser.RelatedBy (Run.Comparison.full ν) (fun value image => mapper value = image) Eq Eq
        parser (parser.map mapper) :=
    Parser.relatedBy_map_iff.2 rfl
  have together : Cursor.ProgressTogether Eq := Cursor.inStep_eq.progressTogether
  have manyChanged := changed.many together
  have someChanged := changed.some together
  rw [forall₂_map_eq] at manyChanged someChanged
  constructor
  · exact (Parser.relatedBy_map_iff.1 manyChanged).symm
  · exact (Parser.relatedBy_map_iff.1 someChanged).symm

end ParserAlgebra
