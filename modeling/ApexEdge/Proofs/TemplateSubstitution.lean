import ApexEdge.Library.Sequence
import ApexEdge.Library.Substitution
import ApexEdge.Printing.Render

/-! When a template comes to an end. Each turn takes an end marker away; what it puts into the
text is searched again, and may bring new ones. -/

namespace ApexEdge.Proofs.TemplateTermination
open Library Printing.Render Replacing

def step (payload : Value) (out : Text) : Option Text :=
  match turn payload out with
  | .expanded next => some next
  | .finished | .failed _ => none

/-- The next turn leaves an end marker that stands neither before its block nor behind it. -/
def BringsEnd (payload : Value) (out : Text) : Prop :=
  ∃ block items, firstBlock out = some (.ok block) ∧ (payload.get block.key).bind Value.asArray = some items ∧
    occurrences eachEnd block.before + occurrences eachEnd block.rest <
      occurrences eachEnd (block.before ++ items.flatMap (fillItem block.body) ++ block.rest)

def Terminates (payload : Value) (templateBody : Text) : Prop :=
  ∃ fuel result, renderHtml fuel templateBody payload = some result

variable {payload : Value} {out next : Text} {block : Block}

/-- Where the first block stands in its text. -/
theorem firstBlock_text (found : firstBlock out = some (.ok block)) :
    ∃ key, block.key = Sync.trim key ∧
      out = block.before ++ (eachStart ++ (key ++ (tagEnd ++ (block.body ++ (eachEnd ++ block.rest))))) := by
  unfold firstBlock at found
  split at found
  · cases found
  next before tail starts =>
    split at found
    · cases found
    next key tail closed =>
      split at found
      · cases found
      next body rest ends =>
        cases found
        exact ⟨key, rfl, by rw [cut_some starts, cut_some closed, cut_some ends]⟩

theorem step_some (taken : step payload out = some next) :
    ∃ block items, firstBlock out = some (.ok block) ∧ (payload.get block.key).bind Value.asArray = some items ∧
      next = block.before ++ items.flatMap (fillItem block.body) ++ block.rest := by
  unfold step turn at taken
  cases found : firstBlock out with
  | none => rw [found] at taken; cases taken
  | some parsed =>
    rw [found] at taken
    cases parsed with
    | error error => cases taken
    | ok block =>
      cases array : (payload.get block.key).bind Value.asArray with
      | none => simp only [array] at taken; cases taken
      | some items =>
        simp only [array] at taken
        exact ⟨block, items, rfl, array, (Option.some.inj taken).symm⟩

/-- A turn that brings no end marker takes one away. -/
theorem step_decreases (taken : step payload out = some next) (harmless : ¬ BringsEnd payload out) :
    occurrences eachEnd next < occurrences eachEnd out := by
  obtain ⟨block, items, found, array, rfl⟩ := step_some taken
  obtain ⟨key, -, text⟩ := firstBlock_text found
  have shape : out = block.before ++ (eachStart ++ key ++ tagEnd ++ block.body) ++ (eachEnd ++ block.rest) := by
    rw [text]
    simp only [List.append_assoc]
  have after : occurrences eachEnd (block.before ++ items.flatMap (fillItem block.body) ++ block.rest) ≤
      occurrences eachEnd block.before + occurrences eachEnd block.rest :=
    Nat.le_of_not_lt fun brings => harmless ⟨block, items, found, array, brings⟩
  have marker : 0 < occurrences eachEnd eachEnd := occurrences_self (by decide)
  have opened := occurrences_append_le eachEnd block.before (eachStart ++ key ++ tagEnd ++ block.body)
  have closed := occurrences_append_le eachEnd eachEnd block.rest
  have whole := occurrences_append_le eachEnd (block.before ++ (eachStart ++ key ++ tagEnd ++ block.body))
    (eachEnd ++ block.rest)
  rw [shape]
  omega

/-- The loop runs out of fuel exactly when it could take one more turn. -/
theorem expandBlocks_none (fuel : Nat) (out : Text) :
    expandBlocks payload fuel out = none ↔ Halting.steps (step payload) (fuel + 1) out ≠ none := by
  induction fuel generalizing out with
  | zero =>
    rw [expandBlocks, Halting.steps, step]
    cases turn payload out <;> simp [Halting.steps]
  | succ fuel ih =>
    rw [expandBlocks, Halting.steps, step]
    cases turn payload out with
    | expanded next => exact ih next
    | finished | failed => simp

theorem terminates_iff_halts (payload : Value) (templateBody : Text) :
    Terminates payload templateBody ↔ Halting.Halts (step payload) templateBody := by
  have ended (fuel : Nat) : (∃ result, renderHtml fuel templateBody payload = some result) ↔
      Halting.steps (step payload) (fuel + 1) templateBody = none := by
    rw [← not_iff_not, ← ne_eq (Halting.steps ..), ← expandBlocks_none, renderHtml]
    cases expandBlocks payload fuel templateBody <;> simp
  constructor
  · rintro ⟨fuel, returns⟩
    exact ⟨fuel + 1, (ended fuel).mp returns⟩
  · rintro ⟨count, done⟩
    exact ⟨count, (ended count).mpr (Halting.steps_none done (Nat.le_succ count))⟩

/-- A block for each `a` that shows `x`. -/
def listing : Text :=
  eachStart ++ ['a'] ++ tagEnd ++ placeholder ['x'] ++ eachEnd

/-- One item, named like the listing itself. -/
def quine : Value := .object [(['a'], .array [.object [(['x'], .string listing)]])]

end ApexEdge.Proofs.TemplateTermination

/-! Templates as what they mean: each placeholder of the template is replaced by its value, and
a value is text. Rendering comes to that as long as no pass finds anything in what another has
put in. -/

namespace ApexEdge.Proofs.TemplateSubstitution
open Library Printing.Render Replacing Substitution TemplateTermination

abbrev Entries := List (Text × Value)

/-- The keys that an item or a payload brings, if it is an object. -/
def entriesOf (value : Value) : Entries := value.asObject.getD []

def ruleOf (entry : Text × Value) : Rule Char := (placeholder entry.1, valueToStr entry.2)

/-- All placeholders of the entries at once. -/
def substitute (entries : Entries) (text : Text) : Text := replaceEach (entries.map ruleOf) text

theorem rest_shorter {out : Text} {block : Block} (found : firstBlock out = some (.ok block)) :
    block.rest.length < out.length := by
  obtain ⟨key, -, text⟩ := firstBlock_text found
  have length := congrArg List.length text
  simp only [List.length_append] at length
  have marker : eachEnd.length = 9 := rfl
  omega

/-- The blocks of a template from left to right, each in the template's own text. -/
def overBlocks {β : Type} (last : Text → β) (block : Block → List Value → β → β) (payload : Value)
    (templateBody : Text) : Except RenderError β :=
  match _ : firstBlock templateBody with
  | none => .ok (last templateBody)
  | some (.error error) => .error error
  | some (.ok first) =>
    match (payload.get first.key).bind Value.asArray with
    | none => .error (notAnArray first.key)
    | some items => (overBlocks last block payload first.rest).map (block first items)
termination_by templateBody.length
decreasing_by exact rest_shorter (by assumption)

/-- The template with its blocks repeated for their items. In a block an item's own keys come
first. Nothing that is put in is looked at. -/
def substitution (payload : Value) (templateBody : Text) : Except RenderError Text :=
  overBlocks (substitute (entriesOf payload))
    (fun block items rest => substitute (entriesOf payload) block.before ++
      items.flatMap (fun item => substitute (entriesOf item ++ entriesOf payload) block.body) ++ rest)
    payload templateBody

/-! ### With marks -/

/-- Pass after pass over a marked text. -/
def fillMarked (entries : Entries) (marked : Marked Char) : Marked Char :=
  replaceInTurn ((entries.map ruleOf).map mark) marked

/-- Each pass finds occurrences of the template's own text only. -/
def OwnPasses : Entries → Marked Char → Prop
  | [], _ => True
  | entry :: entries, marked =>
    Own (placeholder entry.1) marked ∧ OwnPasses entries (fillMarked [entry] marked)

instance decidableOwnPasses : (entries : Entries) → (marked : Marked Char) → Decidable (OwnPasses entries marked)
  | [], _ => isTrue trivial
  | entry :: entries, marked =>
    have := decidableOwnPasses entries (fillMarked [entry] marked)
    inferInstanceAs (Decidable (_ ∧ _))

/-- Where two texts meet that did not in the template. -/
def seam : Marked Char := [.inr []]

/-- The body of a block once per item, filled with the item's own keys. -/
def copies (items : List Value) (body : Text) : Marked Char :=
  items.flatMap fun item => fillMarked (entriesOf item) (own body) ++ seam

/-- The blocks expanded, with marks at what was put in and where texts meet. -/
def expandMarked (payload : Value) (templateBody : Text) : Except RenderError (Marked Char) :=
  overBlocks own
    (fun block items rest => own block.before ++ (seam ++ (copies items block.body ++ rest))) payload templateBody

/-- The keys of the entries do not overlap in any text. -/
def Distinct (entries : Entries) : Prop :=
  entries.Pairwise fun earlier later =>
    earlier.1 = later.1 ∨ Clear (placeholder later.1) (placeholder earlier.1)

/-- No block begins in what is done, before the rest of the template, and none in what is done
next; within a block each pass finds the template's own text. -/
inductive Undisturbed (payload : Value) : Text → Text → Prop where
  | last {done text : Text} (free : Free eachStart done text)
      (none : ∀ block, firstBlock text ≠ some (.ok block)) : Undisturbed payload done text
  | noArray {done text : Text} {block : Block} (free : Free eachStart done text)
      (found : firstBlock text = some (.ok block))
      (missing : (payload.get block.key).bind Value.asArray = none) : Undisturbed payload done text
  | block {done text : Text} {block : Block} {items : List Value} (free : Free eachStart done text)
      (found : firstBlock text = some (.ok block))
      (array : (payload.get block.key).bind Value.asArray = some items)
      (distinct : ∀ item ∈ items, Distinct (entriesOf item ++ entriesOf payload))
      (passes : ∀ item ∈ items, OwnPasses (entriesOf item) (own block.body))
      (others : Undisturbed payload (done ++ (block.before ++ items.flatMap (fillItem block.body))) block.rest) :
      Undisturbed payload done text

/-- No pass over the text, for a block or for a key, finds anything but the template's own text. -/
structure SinglePass (payload : Value) (templateBody : Text) : Prop where
  blocks : Undisturbed payload [] templateBody
  distinct : Distinct (entriesOf payload)
  keys : ∀ marked, expandMarked payload templateBody = .ok marked → OwnPasses (entriesOf payload) marked

variable {payload : Value} {done text : Text} {block : Block} {items : List Value} {entries : Entries}
  {marked : Marked Char}

section Blocks
variable {β : Type} {last : Text → β} {each : Block → List Value → β → β}

theorem overBlocks_eq (text : Text) : overBlocks last each payload text =
    match firstBlock text with
    | none => .ok (last text)
    | some (.error error) => .error error
    | some (.ok first) =>
      match (payload.get first.key).bind Value.asArray with
      | none => .error (notAnArray first.key)
      | some items => (overBlocks last each payload first.rest).map (each first items) := by
  rw [overBlocks]
  split
  next found => rw [found]
  next found => rw [found]
  next found => rw [found]

theorem overBlocks_none (none : firstBlock text = none) : overBlocks last each payload text = .ok (last text) := by
  rw [overBlocks_eq, none]

theorem overBlocks_error {error : RenderError} (failed : firstBlock text = some (.error error)) :
    overBlocks last each payload text = .error error := by
  rw [overBlocks_eq, failed]

theorem overBlocks_missing (found : firstBlock text = some (.ok block))
    (missing : (payload.get block.key).bind Value.asArray = none) :
    overBlocks last each payload text = .error (notAnArray block.key) := by
  rw [overBlocks_eq, found]
  dsimp only
  rw [missing]

theorem overBlocks_block (found : firstBlock text = some (.ok block))
    (array : (payload.get block.key).bind Value.asArray = some items) :
    overBlocks last each payload text = (overBlocks last each payload block.rest).map (each block items) := by
  rw [overBlocks_eq, found]
  dsimp only
  rw [array]

end Blocks

/-- A text that no block begins in goes before the first block. -/
theorem firstBlock_free (free : Free eachStart done text) : firstBlock (done ++ text) =
    (firstBlock text).map (Except.map fun block => { block with before := done ++ block.before }) := by
  unfold firstBlock
  rw [cut_free free]
  cases cut eachStart text with
  | none => rfl
  | some parts =>
    dsimp only [Option.map_some]
    cases cut tagEnd parts.2 with
    | none => rfl
    | some parts =>
      dsimp only
      cases cut eachEnd parts.2 <;> rfl

theorem placeholder_ne_nil (key : Text) : placeholder key ≠ [] := List.cons_ne_nil _ _

/-- A pass that finds the template's own text only does on the text what it does on the marked text. -/
theorem fill_flat (passes : OwnPasses entries marked) :
    flat (fillMarked entries marked) = fill entries (flat marked) := by
  induction entries generalizing marked with
  | nil => rfl
  | cons entry entries ih =>
    have first := flat_replaceAll (placeholder_ne_nil entry.1) (valueToStr entry.2) passes.1
    rw [fill, List.foldl_cons, ← first]
    exact ih passes.2

theorem fillMarked_over (entries : Entries) (before after : Marked Char) :
    fillMarked entries (before ++ .inr [] :: after) =
      fillMarked entries before ++ .inr [] :: fillMarked entries after := by
  induction entries generalizing before after with
  | nil => rfl
  | cons entry entries ih =>
    have strange : (.inr [] : Char ⊕ Text) ∉ own (placeholder entry.1) := fun inside => by
      obtain ⟨_, _, same⟩ := List.mem_map.mp inside
      cases same
    have across := replaceAll_over (own_ne_nil (placeholder_ne_nil entry.1)) strange [.inr (valueToStr entry.2)]
      before after
    have rest := ih (replaceAll (own (placeholder entry.1)) [.inr (valueToStr entry.2)] before)
      (replaceAll (own (placeholder entry.1)) [.inr (valueToStr entry.2)] after)
    rw [← across] at rest
    exact rest

/-- Passes over a body for the keys of its item and then for those of the payload are passes
for both. -/
theorem fillMarked_twice (first last : Entries) (marked : Marked Char) :
    fillMarked last (fillMarked first marked) = fillMarked (first ++ last) marked := by
  rw [fillMarked, fillMarked, fillMarked, replaceInTurn, replaceInTurn, replaceInTurn, List.map_append, List.map_append,
    List.foldl_append]

/-- Passes over a text of the template alone come to one substitution. -/
theorem flat_fillMarked (distinct : Distinct entries) (text : Text) :
    flat (fillMarked entries (own text)) = substitute entries text := by
  have filled : ∀ rule ∈ entries.map ruleOf, rule.1 ≠ [] := by
    intro rule member
    obtain ⟨entry, _, rfl⟩ := List.mem_map.mp member
    exact placeholder_ne_nil entry.1
  have apart : (entries.map ruleOf).Pairwise fun earlier later => earlier.1 = later.1 ∨ Clear later.1 earlier.1 := by
    rw [List.pairwise_map]
    exact distinct.imp fun either => either.imp_left (congrArg placeholder)
  rw [fillMarked, replaceInTurn_eq (inTurn_mark filled apart), flat_replaceEach filled, substitute]

theorem fillItem_eq (body : Text) (item : Value) : fillItem body item = fill (entriesOf item) body := by
  unfold fillItem entriesOf
  cases item.asObject <;> rfl

theorem flat_copies (passes : ∀ item ∈ items, OwnPasses (entriesOf item) (own text)) :
    flat (copies items text) = items.flatMap (fillItem text) := by
  induction items with
  | nil => rfl
  | cons item items ih =>
    obtain ⟨here, later⟩ := List.forall_mem_cons.mp passes
    have first : flat (fillMarked (entriesOf item) (own text) ++ seam) = fillItem text item := by
      rw [flat_append, fill_flat here, flat_own, fillItem_eq]
      exact List.append_nil _
    rw [copies, List.flatMap_cons, flat_append, first, List.flatMap_cons]
    exact congrArg _ (ih later)

/-- The loop does to the text what the expansion does to the marked text. -/
theorem expandBlocks_eq (undisturbed : Undisturbed payload done text) :
    ∃ fuel, expandBlocks payload fuel (done ++ text) =
      some ((expandMarked payload text).map fun marked => done ++ flat marked) := by
  induction undisturbed with
  | @last done text free none =>
    refine ⟨0, ?_⟩
    have moved := firstBlock_free free
    rw [expandBlocks, turn, moved]
    cases found : firstBlock text with
    | none =>
      rw [expandMarked, overBlocks_none found]
      exact congrArg (fun rest => some (Except.ok (done ++ rest))) (flat_own text).symm
    | some parsed =>
      cases parsed with
      | error error => rw [expandMarked, overBlocks_error found]; rfl
      | ok block => exact absurd found (none block)
  | @noArray done text block free found missing =>
    refine ⟨0, ?_⟩
    rw [expandBlocks, turn, firstBlock_free free, found, expandMarked, overBlocks_missing found missing]
    dsimp only [Option.map_some, Except.map]
    rw [missing]
  | @block done text block items free found array distinct passes others ih =>
    obtain ⟨fuel, rest⟩ := ih
    have taken : turn payload (done ++ text) =
        .expanded (done ++ (block.before ++ items.flatMap (fillItem block.body)) ++ block.rest) := by
      rw [turn, firstBlock_free free, found]
      dsimp only [Option.map_some, Except.map]
      rw [array]
      simp only [List.append_assoc]
    have joined : (expandMarked payload text).map (fun marked => done ++ flat marked) =
        (expandMarked payload block.rest).map fun marked =>
          done ++ (block.before ++ items.flatMap (fillItem block.body)) ++ flat marked := by
      rw [expandMarked, overBlocks_block found array, ← expandMarked]
      cases expandMarked payload block.rest with
      | error => rfl
      | ok marked =>
        have whole : flat (own block.before ++ (seam ++ (copies items block.body ++ marked))) =
            block.before ++ items.flatMap (fillItem block.body) ++ flat marked := by
          rw [flat_append, flat_own, flat_append, flat_append, flat_copies passes, List.append_assoc]
          rfl
        refine congrArg Except.ok ?_
        dsimp only
        rw [whole, List.append_assoc, List.append_assoc, List.append_assoc]
    refine ⟨fuel + 1, ?_⟩
    rw [expandBlocks, taken, joined]
    exact rest

theorem fillMarked_copies (entries : Entries) (items : List Value) (body : Text) (marked : Marked Char) :
    fillMarked entries (copies items body ++ marked) =
      items.flatMap (fun item => fillMarked (entriesOf item ++ entries) (own body) ++ seam) ++
        fillMarked entries marked := by
  induction items with
  | nil => rfl
  | cons item items ih =>
    have shape : copies (item :: items) body ++ marked =
        fillMarked (entriesOf item) (own body) ++ .inr [] :: (copies items body ++ marked) := by
      rw [copies, List.flatMap_cons, seam, List.append_assoc, List.append_assoc]
      rfl
    rw [shape, fillMarked_over, fillMarked_twice, ih, List.flatMap_cons, List.append_assoc, List.append_assoc]
    rfl

theorem flat_filled_copies (distinct : ∀ item ∈ items, Distinct (entriesOf item ++ entries)) (body : Text) :
    flat (items.flatMap fun item => fillMarked (entriesOf item ++ entries) (own body) ++ seam) =
      items.flatMap fun item => substitute (entriesOf item ++ entries) body := by
  induction items with
  | nil => rfl
  | cons item items ih =>
    obtain ⟨here, later⟩ := List.forall_mem_cons.mp distinct
    rw [List.flatMap_cons, flat_append, flat_append, flat_fillMarked here, ih later, List.flatMap_cons]
    exact congrArg (· ++ _) (List.append_nil _)

/-- The passes for the payload's keys complete the substitution. -/
theorem fillMarked_expandMarked (undisturbed : Undisturbed payload done text)
    (distinct : Distinct (entriesOf payload)) :
    (expandMarked payload text).map (fun marked => flat (fillMarked (entriesOf payload) marked)) =
      substitution payload text := by
  induction undisturbed with
  | @last done text free none =>
    cases found : firstBlock text with
    | none =>
      rw [expandMarked, overBlocks_none found, substitution, overBlocks_none found]
      exact congrArg Except.ok (flat_fillMarked distinct text)
    | some parsed =>
      cases parsed with
      | error error => rw [expandMarked, overBlocks_error found, substitution, overBlocks_error found]; rfl
      | ok block => exact absurd found (none block)
  | @noArray done text block free found missing =>
    rw [expandMarked, overBlocks_missing found missing, substitution, overBlocks_missing found missing]
    rfl
  | @block done text block items free found array apart passes others ih =>
    rw [expandMarked, overBlocks_block found array, ← expandMarked, substitution, overBlocks_block found array,
      ← substitution, ← ih]
    cases expandMarked payload block.rest with
    | error => rfl
    | ok marked =>
      refine congrArg Except.ok ?_
      change flat (fillMarked (entriesOf payload)
        (own block.before ++ .inr [] :: (copies items block.body ++ marked))) = _
      rw [fillMarked_over, fillMarked_copies, flat_append, flat_fillMarked distinct]
      dsimp only
      rw [List.append_assoc]
      refine congrArg _ ?_
      change flat (_ ++ _) = _
      rw [flat_append, flat_filled_copies apart]

/-- A key that looks like no part of a placeholder. -/
def Plain (key : Text) : Prop := '\x7B' ∉ key ∧ '\x7D' ∉ key

instance (key : Text) : Decidable (Plain key) := inferInstanceAs (Decidable (_ ∧ _))

/-- A key is read back up to the end of its tag. -/
theorem read_key {key : Text} (plain : Plain key) (rest : Text) :
    (key ++ (tagEnd ++ rest)).takeWhile (· ≠ '\x7D') = key := by
  rw [List.takeWhile_append_of_pos fun c inside => by simpa using fun same : c = '\x7D' => plain.2 (same ▸ inside)]
  exact List.append_nil key

theorem clear_of_plain {key other : Text} (plain : Plain key) (plain_other : Plain other) (differ : other ≠ key) :
    Clear (placeholder key) (placeholder other) := by
  intro first last split filled rest here
  obtain _ | ⟨brace, first⟩ := first
  · -- at the same place the keys are the same
    obtain rfl : placeholder key = last := split
    obtain ⟨tail, same⟩ := here
    have inside : other ++ (tagEnd ++ tail) = key ++ (tagEnd ++ rest) := by simpa [placeholder] using same
    have read := congrArg (List.takeWhile (· ≠ '\x7D')) inside
    rw [read_key plain, read_key plain_other] at read
    exact differ read
  -- further on there are no two opening braces
  have later : '\x7B' :: (key ++ tagEnd) = first ++ last := (List.cons.inj split).2
  obtain ⟨start, last, rfl⟩ := List.exists_cons_of_ne_nil filled
  have opens : start = '\x7B' := (List.cons_prefix_cons.mp here).1.symm
  have none : '\x7B' ∉ key ++ tagEnd := by
    rw [List.mem_append, not_or]
    exact ⟨plain.1, by decide⟩
  obtain _ | ⟨second, first⟩ := first
  · have tail : key ++ tagEnd = last := (List.cons.inj later).2
    have again := (List.cons_prefix_cons.mp here).2
    rw [← tail] at again
    obtain ⟨more, same⟩ := again
    have inside : '\x7B' ∈ key ++ tagEnd := by
      cases key with
      | nil => cases same
      | cons c key => exact (List.cons.inj same).1 ▸ List.mem_cons_self
    exact none inside
  · have inside : start ∈ key ++ tagEnd := by
      rw [(List.cons.inj later).2]
      exact List.mem_append_right _ List.mem_cons_self
    exact none (opens ▸ inside)

/-- Keys without braces are never in each other's way. -/
theorem distinct_of_plain (plain : ∀ entry ∈ entries, Plain entry.1) : Distinct entries := by
  refine (List.pairwise_of_forall_mem_list fun earlier first later last => ?_)
  by_cases same : earlier.1 = later.1
  · exact .inl same
  · exact .inr (clear_of_plain (plain later last) (plain earlier first) same)

/-! ### Examples -/

/-- A title, and a list of names between the two times it is shown. -/
def guests : Text :=
  placeholder ['t'] ++ (eachStart ++ ['g'] ++ tagEnd ++ placeholder ['n'] ++ eachEnd) ++ placeholder ['t']

def party : Value :=
  .object [(['g'], .array [.object [(['n'], .string ['A'])], .object [(['n'], .string ['\x7B', 'n', '\x7D'])]]),
    (['t'], .string ['T'])]

/-- The value of one key names another. -/
def swap : Value := .object [(['a'], .string (placeholder ['b'])), (['b'], .string ['X'])]

end ApexEdge.Proofs.TemplateSubstitution
