import HintFuzz.Text.Lines

/-!
# Texts made of lines

Cutting a text at its marks undoes the joining of stretches without marks
(`stretches_append`, `stretches_terminated`), so a text tells where its first mark
stands (`mark_inj`) and which lines it was made of (`terminated_injOn`).
-/

namespace HintFuzz.Text

variable {Unit : Type} [DecidableEq Unit] {mark : Unit} {text rest : List Unit}

/-- No stretch holds the mark that it was cut at. -/
theorem mark_notMem_of_mem_stretches {stretch : List Unit} (member : stretch ∈ stretches mark text) :
    mark ∉ stretch := by
  induction text generalizing stretch with
  | nil =>
      cases List.mem_singleton.mp member
      exact List.not_mem_nil
  | cons c rest ih =>
      simp only [stretches] at member
      split at member
      · rcases List.mem_cons.mp member with rfl | later
        · exact List.not_mem_nil
        · exact ih later
      · next other =>
          split at member
          · cases List.mem_singleton.mp member
            simpa using Ne.symm other
          · next first others found =>
              rcases List.mem_cons.mp member with rfl | later
              · have clean : mark ∉ first := ih (found ▸ List.mem_cons_self)
                simpa using ⟨Ne.symm other, clean⟩
              · exact ih (found ▸ List.mem_cons_of_mem _ later)

/-- What stands before the first mark is the first stretch. -/
theorem stretches_append (clean : mark ∉ text) (rest : List Unit) :
    stretches mark (text ++ mark :: rest) = text :: stretches mark rest := by
  induction text with
  | nil => simp only [List.nil_append, stretches, if_true]
  | cons c text ih =>
      have other : c ≠ mark := fun same => clean (same ▸ List.mem_cons_self)
      have later : mark ∉ text := fun member => clean (List.mem_cons_of_mem _ member)
      rw [List.cons_append, stretches, if_neg other, ih later]

/-- A text has one first mark. -/
theorem mark_inj {left right leftRest rightRest : List Unit} (leftClean : mark ∉ left)
    (rightClean : mark ∉ right) (same : left ++ mark :: leftRest = right ++ mark :: rightRest) :
    left = right ∧ leftRest = rightRest := by
  have cut := congrArg (stretches mark) same
  rw [stretches_append leftClean, stretches_append rightClean] at cut
  obtain ⟨rfl, -⟩ := List.cons.inj cut
  exact ⟨rfl, (List.cons.inj (List.append_cancel_left same)).2⟩

/-- Stretches with a mark after each of them. -/
def terminated (mark : Unit) (lines : List (List Unit)) : List Unit :=
  lines.flatMap (· ++ [mark])

private theorem stretches_terminated_append {lines : List (List Unit)} {last : List Unit}
    (clean : ∀ line ∈ lines, mark ∉ line) (lastClean : mark ∉ last) :
    stretches mark (terminated mark lines ++ last) = lines ++ [last] := by
  induction lines with
  | nil =>
      change stretches mark last = [last]
      induction last with
      | nil => rfl
      | cons c last ih =>
          obtain ⟨other, later⟩ := List.ne_and_not_mem_of_not_mem_cons lastClean
          rw [stretches, if_neg other.symm, ih later]
  | cons line lines ih =>
      have joined : terminated mark (line :: lines) ++ last =
          line ++ mark :: (terminated mark lines ++ last) := by
        rw [terminated, List.flatMap_cons, List.append_assoc, List.append_assoc]
        rfl
      rw [joined, stretches_append (clean line List.mem_cons_self),
        ih fun later member => clean later (List.mem_cons_of_mem _ member)]
      rfl

/-- Between the marks of terminated lines stand these lines. -/
theorem stretches_terminated {lines : List (List Unit)} (clean : ∀ line ∈ lines, mark ∉ line) :
    stretches mark (terminated mark lines) = lines ++ [[]] := by
  rw [← List.append_nil (terminated mark lines)]
  exact stretches_terminated_append clean List.not_mem_nil

/-- A text that is empty or ends with a mark. -/
def Closed (mark : Unit) (text : List Unit) : Prop :=
  ∀ c ∈ text.getLast?, c = mark

omit [DecidableEq Unit] in
/-- Terminated lines end with a mark. -/
theorem closed_terminated (lines : List (List Unit)) : Closed mark (terminated mark lines) := by
  induction lines with
  | nil => exact fun _ => nofun
  | cons line lines ih =>
      rw [terminated, List.flatMap_cons, ← terminated]
      intro c last
      rw [List.getLast?_append, List.getLast?_concat] at last
      cases ended : (terminated mark lines).getLast? with
      | none =>
          rw [ended] at last
          exact (Option.some.inj last).symm
      | some d =>
          rw [ended] at last
          exact Option.some.inj last ▸ ih d ended

/-- A text that ends with a mark is made of lines. -/
theorem Closed.exists_terminated (closed : Closed mark text) :
    ∃ lines, (∀ line ∈ lines, mark ∉ line) ∧ text = terminated mark lines := by
  induction text with
  | nil => exact ⟨[], fun _ => nofun, rfl⟩
  | cons c rest ih =>
      cases rest with
      | nil =>
          cases closed c rfl
          exact ⟨[[]], fun line member => List.mem_singleton.mp member ▸ List.not_mem_nil, rfl⟩
      | cons d rest =>
          obtain ⟨lines, clean, made⟩ := ih fun last found =>
            closed last (by rwa [List.getLast?_cons_cons])
          by_cases same : c = mark
          · refine ⟨[] :: lines, ?_, ?_⟩
            · intro line member
              rcases List.mem_cons.mp member with rfl | later
              · exact List.not_mem_nil
              · exact clean line later
            · rw [same, made]
              rfl
          · cases lines with
            | nil => cases made
            | cons first others =>
                refine ⟨(c :: first) :: others, ?_, ?_⟩
                · intro line member
                  rcases List.mem_cons.mp member with rfl | later
                  · have firstClean : mark ∉ first := clean first List.mem_cons_self
                    simpa using ⟨Ne.symm same, firstClean⟩
                  · exact clean line (List.mem_cons_of_mem _ later)
                · rw [made]
                  rfl

/-- The lines of a text that is made of lines. -/
theorem linesOf_terminated (carriageReturn : Unit) {lines : List (List Unit)}
    (clean : ∀ line ∈ lines, mark ∉ line) :
    linesOf mark carriageReturn (terminated mark lines) =
      lines.map (dropReturn carriageReturn) := by
  simp only [linesOf, stretches_terminated clean, List.dropLast_concat, List.getLast?_concat]

/-- Lines at the end of a text that ends with a mark are lines of the whole text. -/
theorem Closed.linesOf_append (closed : Closed mark text) (carriageReturn : Unit)
    {lines : List (List Unit)} (clean : ∀ line ∈ lines, mark ∉ line) :
    linesOf mark carriageReturn (text ++ terminated mark lines) =
      linesOf mark carriageReturn text ++ lines.map (dropReturn carriageReturn) := by
  obtain ⟨earlier, earlierClean, rfl⟩ := closed.exists_terminated
  have joined : terminated mark earlier ++ terminated mark lines =
      terminated mark (earlier ++ lines) := by
    rw [terminated, terminated, terminated, List.flatMap_append]
  rw [joined, linesOf_terminated _ earlierClean, linesOf_terminated, List.map_append]
  intro line member
  rcases List.mem_append.mp member with early | late
  · exact earlierClean line early
  · exact clean line late

/-- Lines without marks can be read off the text that they make. -/
theorem terminated_injOn {left right : List (List Unit)} (leftClean : ∀ line ∈ left, mark ∉ line)
    (rightClean : ∀ line ∈ right, mark ∉ line)
    (same : terminated mark left = terminated mark right) : left = right := by
  have cut := congrArg (stretches mark) same
  rw [stretches_terminated leftClean, stretches_terminated rightClean] at cut
  exact List.append_cancel_right cut

/-- The lines of a text have no line feed in them. -/
theorem lineFeed_notMem_of_mem_lines {text line : String} (member : line ∈ lines text) :
    '\n' ∉ line.toList := by
  obtain ⟨found, foundMember, rfl⟩ := List.mem_map.mp member
  rw [String.toList_ofList]
  have ended {stretch : List Char} (member : stretch ∈
      (stretches '\n' text.toList).dropLast.map (dropReturn '\r')) : '\n' ∉ stretch := by
    obtain ⟨whole, wholeMember, rfl⟩ := List.mem_map.mp member
    have clean := mark_notMem_of_mem_stretches (List.dropLast_subset _ wholeMember)
    unfold dropReturn
    split
    · exact fun member => clean (List.dropLast_subset _ member)
    · exact clean
  simp only [linesOf] at foundMember
  split at foundMember
  · exact ended foundMember
  · exact ended foundMember
  · next last _ isLast =>
      rcases List.mem_append.mp foundMember with early | final
      · exact ended early
      · cases List.mem_singleton.mp final
        exact mark_notMem_of_mem_stretches (List.mem_of_getLast? isLast)

end HintFuzz.Text
