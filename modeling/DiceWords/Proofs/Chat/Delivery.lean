import DiceWords.Proofs.Chat.Responder
import DiceWords.Proofs.Text.Plain
import DiceWords.Proofs.Text.Words

/-! # Which texts can be delivered

The platform refuses a text that is longer than a message may be. A reply is cut before it is sent,
so its length is no reason to refuse it. What the operator is told about a refused reply is not cut,
and it repeats the message: so it may be too long when the message itself is not
(`report_too_long`). It is the only such text, and the message, the name of its author, the number
of its channel and the words of the refusal decide whether it is
(`Responder.receive_deliverable_iff`). -/

namespace DiceWords.Chat

/-- The text that a call sends, if it sends one. -/
def Call.text? : Call → Option String
  | replyPing _ text | say _ text => some text
  | appInfo _ | client _ | start | shutdown | react _ _ => none

/-- Every text that is sent is short enough for a message. -/
def Deliverable (calls : List Call) : Prop :=
  ∀ call ∈ calls, ∀ text ∈ call.text?, text.length ≤ maxMessageLength

/-- Where nothing is sent, nothing is too long. -/
theorem deliverable_nil : Deliverable [] :=
  List.forall_mem_nil _

/-- All texts can be delivered when each of them can. -/
theorem deliverable_cons {call : Call} {calls : List Call} :
    Deliverable (call :: calls) ↔
      (∀ text ∈ call.text?, text.length ≤ maxMessageLength) ∧ Deliverable calls :=
  List.forall_mem_cons

/-- A reply is cut before it is sent, so it is short enough. -/
theorem Message.length_le_of_mem_text?_reply (message : Message) (reply : String) :
    ∀ text ∈ (message.reply reply).text?, text.length ≤ maxMessageLength := by
  intro text sent
  unfold Message.reply at sent
  cases guild : message.guild with
  | some _ =>
      rw [guild] at sent
      obtain rfl := Option.some.inj sent
      exact length_fitMessage_le reply
  | none =>
      rw [guild] at sent
      obtain rfl := Option.some.inj sent
      exact length_fitMessage_le reply

/-- Reactions have no text. -/
theorem deliverable_reactions (refuses : Refusals) (channel : Nat) (ends : Extremes) :
    Deliverable (reactions refuses channel ends).calls := by
  intro call member text sent
  rw [calls_reactions] at member
  obtain ⟨extreme, -, rfl⟩ := List.mem_map.mp member
  exact nomatch sent

namespace Responder

/-- The length of a report is that of the texts which it repeats, and a little more. -/
theorem length_failureText (message : Message) (subject why : String) :
    (failureText message subject why).length =
      39 + subject.length + message.author.length + (toString message.channel).length +
        why.length := by
  have opening : "**failure** solving `".length = 21 := rfl
  have closing : "` for **".length = 8 ∧ "** in <#".length = 8 ∧ ">\n".length = 2 := ⟨rfl, rfl, rfl⟩
  unfold failureText
  simp only [String.length_append, opening, closing]
  omega

/-- A report can be delivered when its text is short enough, or there is nobody to report to. -/
theorem deliverable_report_iff (responder : Responder) (refuses : Refusals) (message : Message)
    (subject why : String) :
    Deliverable (responder.report refuses message subject why).calls ↔
      (responder.operator.isSome →
        (failureText message subject why).length ≤ maxMessageLength) := by
  rw [calls_report_failureText]
  cases responder.operator with
  | none => exact iff_of_true deliverable_nil fun absent => nomatch absent
  | some operator =>
      simp [Deliverable, Call.text?]

/-- What is sent in answer to a message that is not passed over. -/
theorem calls_receive {σ : Type} (responder : Responder) (source : Source σ) (refuses : Refusals)
    (message : Message) (state : σ) (noticed : ignores message = false) :
    ((responder.receive source refuses message).run state).1.calls =
      match ((scan responder.options source message.content).run state).1.found.reply? with
      | none => []
      | some reply => message.reply reply ::
        (refuses (message.reply reply)).elim
          (reactions refuses message.channel
            ((scan responder.options source message.content).run state).1.found.extremes).calls
          fun why => (responder.report refuses message message.content why).calls := by
  rcases ran : (scan responder.options source message.content).run state with ⟨progress, final⟩
  have expected := (run_scan_iff.mp ran).unexpected_eq_nil
  have received : (responder.receive source refuses message).run state =
      ({ log := progress.log : Trace } ++ responder.respond refuses message progress.found,
        final) := by
    rw [receive, if_neg (Bool.eq_false_iff.mp noticed)]
    simp only [StateT.run_bind, ran]
    rfl
  rw [received, Trace.calls_append, calls_respond expected, Scan.reply?]
  by_cases silent : progress.found.lines = []
  · rw [if_pos silent, if_pos (List.isEmpty_iff.mpr silent)]
    rfl
  · rw [if_neg silent, if_neg (by simpa using silent), calls_send]
    rfl

/-- A message that is passed over is not answered. -/
theorem calls_receive_of_ignores {σ : Type} (responder : Responder) (source : Source σ)
    (refuses : Refusals) (message : Message) (state : σ) (ignored : ignores message = true) :
    ((responder.receive source refuses message).run state).1.calls = [] := by
  rw [receive, if_pos ignored]
  rfl

/-- The report of a refused reply is the only text that may be too long. -/
theorem length_le_or_report {σ : Type} (responder : Responder) (source : Source σ)
    (refuses : Refusals) (message : Message) (state : σ) :
    ∀ call ∈ ((responder.receive source refuses message).run state).1.calls, ∀ text ∈ call.text?,
      text.length ≤ maxMessageLength ∨
        ∃ operator ∈ responder.operator,
          ∃ reply ∈ ((scan responder.options source message.content).run state).1.found.reply?,
            ∃ why ∈ refuses (message.reply reply),
              call = .say operator (failureText message message.content why) := by
  intro call member text sent
  cases ignored : ignores message with
  | true =>
      rw [calls_receive_of_ignores responder source refuses message state ignored] at member
      cases member
  | false =>
      rw [calls_receive responder source refuses message state ignored] at member
      split at member
      · cases member
      · next reply replied =>
        rcases List.mem_cons.mp member with same | followed
        · subst same
          exact .inl (message.length_le_of_mem_text?_reply reply text sent)
        · cases refused : refuses (message.reply reply) with
          | none =>
              rw [refused] at followed
              exact .inl (deliverable_reactions refuses _ _ call followed text sent)
          | some why =>
              rw [refused, Option.elim_some, calls_report_failureText] at followed
              obtain ⟨operator, channel, same⟩ := List.mem_map.mp followed
              exact .inr ⟨operator, Option.mem_toList.mp channel, reply, replied, why, refused,
                same.symm⟩

/-- All texts can be delivered unless a report of a refused reply is sent that is too long. -/
theorem deliverable_iff_report_fits {σ : Type} (responder : Responder) (source : Source σ)
    (refuses : Refusals) (message : Message) (state : σ) :
    Deliverable ((responder.receive source refuses message).run state).1.calls ↔
      (ignores message = false →
        ∀ reply ∈ ((scan responder.options source message.content).run state).1.found.reply?,
          ∀ why ∈ refuses (message.reply reply), responder.operator.isSome →
            39 + message.content.length + message.author.length +
              (toString message.channel).length + why.length ≤ maxMessageLength) := by
  cases ignored : ignores message with
  | true =>
      rw [calls_receive_of_ignores responder source refuses message state ignored]
      apply iff_of_true deliverable_nil
      intro noticed
      cases noticed
  | false =>
      rw [calls_receive responder source refuses message state ignored]
      cases replied : ((scan responder.options source message.content).run state).1.found.reply? with
      | none =>
          apply iff_of_true deliverable_nil
          intro _ _ absent
          cases absent
      | some reply =>
          have fits := message.length_le_of_mem_text?_reply reply
          cases refused : refuses (message.reply reply) with
          | none =>
              apply iff_of_true
              · simp only [refused, Option.elim_none]
                exact deliverable_cons.mpr ⟨fits, deliverable_reactions refuses _ _⟩
              · intro _ other same why worded
                obtain rfl := Option.some.inj same
                rw [refused] at worded
                cases worded
          | some why =>
              simp only [refused, Option.elim_some]
              rw [deliverable_cons, deliverable_report_iff, length_failureText]
              constructor
              · intro delivered _ other same words worded
                obtain rfl := Option.some.inj same
                obtain rfl := Option.some.inj (refused.symm.trans worded)
                exact delivered.2
              · intro short
                exact ⟨fits, short trivial reply rfl why refused⟩

/-- **Which texts can be delivered.** Each text that is sent about a message is short enough, except
that the report of a refused reply repeats the message, its author, its channel and the words of the
refusal in full. So all texts can be delivered exactly when these are short enough together or no
such report is sent. -/
theorem receive_deliverable_iff {σ : Type} (responder : Responder) (source : Source σ)
    (refuses : Refusals) (message : Message) (state : σ) :
    ∃ (found : Scan) (calls : List Call),
      ((scan responder.options source message.content).run state).1.found = found ∧
      ((responder.receive source refuses message).run state).1.calls = calls ∧
      (∀ call ∈ calls, ∀ text ∈ call.text?, text.length ≤ maxMessageLength ∨
        ∃ operator ∈ responder.operator, ∃ reply ∈ found.reply?,
          ∃ why ∈ refuses (message.reply reply),
            call = .say operator (failureText message message.content why)) ∧
      (Deliverable calls ↔
        (ignores message = false → ∀ reply ∈ found.reply?, ∀ why ∈ refuses (message.reply reply),
          responder.operator.isSome →
            39 + message.content.length + message.author.length +
              (toString message.channel).length + why.length ≤ maxMessageLength)) :=
  ⟨_, _, rfl, rfl, length_le_or_report responder source refuses message state,
    deliverable_iff_report_fits responder source refuses message state⟩

end Responder

/-! ## A report that is too long -/

/-- A platform that refuses one reply, and puts it briefly. -/
def refusesOne : Refusals := fun call =>
  if call = .replyPing 1 "`1f` `[2]` = **2**" then some "Other(\"refused\")" else none

/-- The source that draws an eight each time. -/
def eights : Source Unit where
  draw _ := pure 8

/-- One die, a blank, and a word that is no dice expression, written in a guild. -/
def dieAndCrosses (n : Nat) : Message where
  content := String.ofList (['1', 'f'] ++ ' ' :: 'x' :: List.replicate n 'x')
  author := "user"
  authorId := 100
  byBot := false
  guild := some 1
  channel := 1

/-- One die, a blank and the crosses make up the whole message. -/
theorem length_dieAndCrosses (n : Nat) : (dieAndCrosses n).content.length = n + 4 := by
  rw [dieAndCrosses, String.length_ofList]
  simp only [List.length_append, List.length_cons, List.length_nil, List.length_replicate]
  omega

/-- What holds of a cross holds of a word of crosses. -/
theorem forall_mem_crosses {p : Char → Prop} (n : Nat) (cross : p 'x') :
    ∀ c ∈ 'x' :: List.replicate n 'x', p c := by
  intro c member
  rw [← List.replicate_succ] at member
  rw [List.eq_of_mem_replicate member]
  exact cross

/-- A word of crosses is no dice. -/
theorem parse_crosses (n : Nat) :
    (Query.ofWord (String.ofList ('x' :: List.replicate n 'x'))).parse {} = .ok none := by
  have taken : Term.take? {} ('x' :: List.replicate n 'x') = .ok none := rfl
  rw [Query.ofWord, String.toList_ofList, Text.trim_of_solid (forall_mem_crosses n rfl),
    Text.lowercase_of_fixed (forall_mem_crosses n (by decide))]
  delta Query.parse Expression.parse
  rw [String.toList_ofList, taken]

/-- Only the die is answered. -/
theorem reply?_dieAndCrosses (n : Nat) :
    ((scan {} eights (dieAndCrosses n).content).run ()).1.found.reply? =
      some "`1f` `[2]` = **2**" := by
  let term : Term := { repeats := none, spec := ⟨1, .f, none, none⟩, source := "1f", length := 2 }
  let expression : Expression := .chain [⟨.plus, term⟩]
  have words : Text.words (dieAndCrosses n).content =
      ["1f", String.ofList ('x' :: List.replicate n 'x')] := by
    rw [dieAndCrosses, Text.words_append_blank (by decide),
      Text.words_of_solid (List.cons_ne_nil _ _) (forall_mem_crosses n rfl)]
    rfl
  have parsed : (Query.ofWord "1f").parse {} = .ok (some expression) := by decide +kernel
  have first : Scan.Progress.Run {} eights () ["1f"]
      (({} : Scan.Progress).rolled expression (expression.resultOf "1f" [8])) () :=
    Scan.Progress.Run.nil.snoc (.rolled ⟨rfl, by decide⟩ parsed (by decide) rfl)
  have run := first.snoc (.plain ⟨rfl, by decide +kernel⟩ (parse_crosses n))
  rw [List.singleton_append, ← words] at run
  rw [run_scan_iff.mpr run]
  decide +kernel

/-- The report repeats the whole message, as long as it is. -/
theorem exists_report_dieAndCrosses (n : Nat) :
    let responder : Responder := { operator := some 9 }
    ∃ call ∈ ((responder.receive eights refusesOne (dieAndCrosses n)).run ()).1.calls,
      ∃ text ∈ call.text?, text.length = n + 64 := by
  intro responder
  have noticed : Responder.ignores (dieAndCrosses n) = false := by
    simp [dieAndCrosses, Responder.ignores, commandSigil]
  have reply : (dieAndCrosses n).reply "`1f` `[2]` = **2**" =
      .replyPing 1 "`1f` `[2]` = **2**" :=
    congrArg (Call.replyPing 1) (fitMessage_eq_self (by decide))
  have refused : refusesOne ((dieAndCrosses n).reply "`1f` `[2]` = **2**") =
      some "Other(\"refused\")" := by
    rw [reply, refusesOne, if_pos rfl]
  refine ⟨.say 9 (Responder.failureText (dieAndCrosses n) (dieAndCrosses n).content
    "Other(\"refused\")"), ?_, _, rfl, ?_⟩
  · rw [Responder.calls_receive responder eights refusesOne _ () noticed, reply?_dieAndCrosses]
    simp [refused, Responder.calls_report_failureText, responder]
  · have name : "user".length = 4 := rfl
    have channel : (toString 1).length = 1 := rfl
    have why : "Other(\"refused\")".length = 16 := rfl
    rw [Responder.length_failureText, length_dieAndCrosses]
    change 39 + (n + 4) + "user".length + (toString 1).length + "Other(\"refused\")".length = n + 64
    omega

/-- A message of 2000 characters with one die in it, whose reply is refused: the report to the
operator has 60 characters more. -/
theorem report_too_long :
    let responder : Responder := { operator := some 9 }
    (dieAndCrosses 1996).content.length = 2000 ∧
      ∃ call ∈ ((responder.receive eights refusesOne (dieAndCrosses 1996)).run ()).1.calls,
        ∃ text ∈ call.text?, text.length = 2060 :=
  ⟨length_dieAndCrosses 1996, exists_report_dieAndCrosses 1996⟩

end DiceWords.Chat
