import DiceWords.Chat.Responder
import DiceWords.Proofs.Chat.Scan

/-! # What the bot does with a message

The calls of a trace do not depend on what the platform does with the reactions or with a report: a
refusal there is only logged, whatever its words. So there are three courses for a message with
something in it: the reply is taken and each end of a die that came up is put under it, or the reply
is refused and the operator is told, or there is no operator to tell (`Responder.run_receive`). -/

namespace DiceWords

namespace Chat

/-! ## The calls of a trace -/

namespace Trace

/-- The calls of an attempt: the call itself, and those of what follows. -/
theorem calls_attempt (refuses : Refusals) (made : Call) (onRefusal : String → Trace)
    (onSuccess : Trace) :
    (attempt refuses made onRefusal onSuccess).calls =
      made :: (refuses made).elim onSuccess.calls fun why => (onRefusal why).calls := by
  rw [attempt]
  cases refuses made with
  | some why => rfl
  | none => rfl

/-- A call whose refusal is only logged. -/
theorem calls_attempt_note (refuses : Refusals) (made : Call) (level : Level)
    (text : String → String) :
    (attempt refuses made (fun why => note level (text why)) {}).calls = [made] := by
  rw [calls_attempt]
  cases refuses made with
  | some why => rfl
  | none => rfl

/-- Traces one behind another make their calls one behind another. -/
theorem calls_concat (traces : List Trace) : (concat traces).calls = traces.flatMap calls := by
  have onwards (start : Trace) :
      (traces.foldl append start).calls = start.calls ++ traces.flatMap calls := by
    induction traces generalizing start with
    | nil => exact (List.append_nil _).symm
    | cons trace others ih =>
        rw [List.foldl_cons, ih, List.flatMap_cons, ← List.append_assoc]
        rfl
  exact onwards {}

end Trace

/-- Emojis are put under a reply whether or not one of them is refused. -/
theorem calls_reactions (refuses : Refusals) (channel : Nat) (ends : Extremes) :
    (reactions refuses channel ends).calls =
      ends.toList.map fun extreme => .react channel (emoji extreme) := by
  rw [reactions, Trace.calls_concat, List.flatMap_map]
  simp only [Trace.calls_attempt_note]
  exact List.flatMap_pure_eq_map _ _

/-- A text that is sent for another: the text itself if it fits in one message, and its beginning
with an ellipsis if it does not. -/
structure Fitted (text sent : String) : Prop where
  bound : sent.length ≤ 2000
  whole : text.length ≤ 2000 → sent = text
  cut : 2000 < text.length → sent.toList = text.toList.take 1999 ++ ['…']

/-- **A text that is cut to fit fits**, and keeps as much as it can. -/
theorem fitted_fitMessage (text : String) : Fitted text (fitMessage text) where
  bound := length_fitMessage_le text
  whole := fitMessage_eq_self
  cut := by
    intro long
    have beyond : ¬ text.length ≤ maxMessageLength := Nat.not_le.mpr long
    rw [fitMessage, if_neg beyond, String.toList_ofList]
    rfl

namespace Responder

/-- What the operator is told when something in a message could not be dealt with. -/
def failureText (message : Message) (subject why : String) : String :=
  "**failure** solving `" ++ subject ++ "` for **" ++ message.author ++ "** in <#" ++
    toString message.channel ++ ">\n" ++ why

/-- A report is sent to the operator's channel, if there is one. -/
theorem calls_report_failureText (responder : Responder) (refuses : Refusals) (message : Message)
    (subject why : String) :
    (responder.report refuses message subject why).calls =
      responder.operator.toList.map fun operator =>
        .say operator (failureText message subject why) := by
  rw [report, Trace.calls_append]
  cases responder.operator with
  | none => rfl
  | some operator =>
      rw [Trace.calls_attempt_note]
      rfl

/-- A report is said to the operator, if there is one. -/
theorem calls_report (responder : Responder) (refuses : Refusals) (message : Message)
    (subject why : String) :
    ∃ report, (responder.report refuses message subject why).calls =
      responder.operator.toList.map fun operator => .say operator report :=
  ⟨_, responder.calls_report_failureText refuses message subject why⟩

/-- Behind a reply there are emojis if it is taken, and a report if it is refused. -/
theorem calls_send (responder : Responder) (refuses : Refusals) (message : Message)
    (reply : String) (ends : Extremes) :
    (responder.send refuses message reply ends).calls = message.reply reply ::
      (refuses (message.reply reply)).elim (reactions refuses message.channel ends).calls
        fun why => (responder.report refuses message message.content why).calls := by
  rw [send, Trace.calls_append, Trace.calls_attempt]
  by_cases direct : message.guild.isNone
  · rw [if_pos direct]
    rfl
  · rw [if_neg direct]
    rfl

/-- A scan with nothing unexpected in it is answered with its reply or not at all. -/
theorem calls_respond {found : Scan} (expected : found.unexpected = []) (responder : Responder)
    (refuses : Refusals) (message : Message) :
    (responder.respond refuses message found).calls =
      if found.lines = [] then []
      else (responder.send refuses message ("\n".intercalate found.lines) found.extremes).calls := by
  rw [respond, Trace.calls_append, Trace.calls_concat, expected, Scan.reply?]
  by_cases silent : found.lines = []
  · rw [if_pos silent, if_pos (List.isEmpty_iff.mpr silent)]
    rfl
  · rw [if_neg silent, if_neg (by simpa using silent)]
    rfl

/-- Messages from bots and messages that begin with the sigil are passed over. -/
theorem ignores_iff (message : Message) :
    ignores message ↔ message.byBot ∨ message.content.toList.head? = some '!' := by
  rw [ignores, Bool.or_eq_true, beq_iff_eq, commandSigil]

/-- **What the bot does with a message.** -/
theorem run_receive {σ : Type} (responder : Responder) (source : Source σ) (refuses : Refusals)
    (message : Message) (state : σ) :
    (message.byBot ∨ message.content.toList.head? = some '!' →
      (responder.receive source refuses message).run state = ({}, state)) ∧
    (¬ (message.byBot ∨ message.content.toList.head? = some '!') →
      ∃ (progress : Scan.Progress) (final : σ) (trace : Trace),
        (scan responder.options source message.content).run state = (progress, final) ∧
        (responder.receive source refuses message).run state = (trace, final) ∧
        (progress.found.lines = [] → trace.calls = []) ∧
        (progress.found.lines ≠ [] →
          ∃ (sent : String) (answer : Call),
            Fitted ("\n".intercalate progress.found.lines) sent ∧
            answer = (match message.guild with
              | some _ => .replyPing message.channel sent
              | none => .say message.channel sent) ∧
            (refuses answer = none →
              ∃ ends : List Extreme, ends.Nodup ∧
                (.highest ∈ ends ↔ progress.found.extremes.highest) ∧
                (.lowest ∈ ends ↔ progress.found.extremes.lowest) ∧
                trace.calls =
                  answer :: ends.map fun extreme => .react message.channel (emoji extreme)) ∧
            (∀ why, refuses answer = some why →
              ∃ report, trace.calls =
                answer :: responder.operator.toList.map fun operator => .say operator report))) := by
  rw [← ignores_iff]
  constructor
  · intro ignored
    rw [receive, if_pos ignored]
    rfl
  · intro noticed
    rcases ran : (scan responder.options source message.content).run state with ⟨progress, final⟩
    have expected := (run_scan_iff.mp ran).unexpected_eq_nil
    have received : (responder.receive source refuses message).run state =
        ({ log := progress.log : Trace } ++ responder.respond refuses message progress.found,
          final) := by
      rw [receive, if_neg noticed]
      simp only [StateT.run_bind, ran]
      rfl
    refine ⟨progress, final, _, rfl, received, ?_, ?_⟩
    · intro silent
      rw [Trace.calls_append, calls_respond expected, if_pos silent]
      rfl
    · intro something
      have calls := calls_respond expected responder refuses message
      rw [if_neg something, calls_send] at calls
      refine ⟨_, message.reply ("\n".intercalate progress.found.lines), fitted_fitMessage _, rfl,
        ?_, ?_⟩
      · intro taken
        refine ⟨progress.found.extremes.toList, progress.found.extremes.nodup_toList,
          progress.found.extremes.highest_mem_toList, progress.found.extremes.lowest_mem_toList, ?_⟩
        rw [Trace.calls_append, calls, taken, calls_reactions]
        rfl
      · intro why refused
        obtain ⟨report, told⟩ := responder.calls_report refuses message message.content why
        refine ⟨report, ?_⟩
        rw [Trace.calls_append, calls, refused, ← told]
        rfl

end Responder

end Chat

end DiceWords
