import Courier.CommandLine.Command
import Courier.Proofs.Answered
import Courier.Proofs.JsonReading
import Courier.Proofs.Options
import Courier.Proofs.Replacement

/-!
# What is printed of a response

A response is read in two ways: strictly as JSON, and as text with the ill-formed parts replaced.
Where the first way succeeds, the second one replaces nothing, so both see the same; the program
prints the value in that case and the text in the other.

* `Response.string?_body` — **a body that is JSON is a text**, and that text is read as that value.
* `Preserves` — what is printed of a response, either way.
* `output_preserves_response` — **all successful requests**, up to the server's reply.
-/

namespace Courier

namespace Response

/-- A body that is a text is read as that text. -/
theorem string?_of_isText {r : Response} (h : Text.Utf8.IsText r.body) :
    Text.Utf8.string? r.body = some r.text := by
  obtain ⟨cs, hcs⟩ := h
  rw [Response.text, Text.Utf8.stringLossy, hcs, Text.Utf8.decodeLossy_encode, Text.Utf8.string?,
    Text.Utf8.decode?_encode, Option.map_some]

/-- **A body that is JSON is a text**, nothing of it is replaced, and the text is read as the same
value. -/
theorem string?_body {r : Response} {v : Json.Value} (h : r.json = .ok v) :
    Text.Utf8.string? r.body = some r.text ∧ Json.parse r.text = .ok v := by
  have htext := string?_of_isText (Json.fits_of_parseBytes h).1
  refine ⟨htext, ?_⟩
  rw [Json.parse, ← Text.Utf8.string?_eq_some_iff.1 htext]
  exact h

end Response

namespace CommandLine

/-! ## Output -/

/-- What is printed of a response: its value, which is read back if its numbers are integers of 64
bits, or else its text, in which each maximal ill-formed part is replaced. -/
structure Preserves (r : Response) (stdout : String) : Prop where
  value : ∀ v, r.json = .ok v → stdout = v.prettyText ++ "\n" ∧
    (v.Throughout Json.Value.IsWord → Json.parse v.prettyText = .ok v)
  text : (∀ v, r.json ≠ .ok v) → ∃ text : String, stdout = text ++ "\n" ∧
    ∀ cs, Text.Utf8.Replaced r.body cs ↔ cs = text.toList

theorem preserves_responseText (r : Response) : Preserves r (responseText r) where
  value v hv := by
    refine ⟨?_, Json.Value.parse_prettyText_of_parseBytes hv⟩
    simp only [responseText, hv]
  text hnone := by
    refine ⟨r.text, ?_, fun cs => ?_⟩
    · cases hjson : r.json with
      | error e => simp only [responseText, hjson]
      | ok v => exact absurd hjson (hnone v)
    · rw [Text.Utf8.replaced_iff, Response.text, Text.Utf8.stringLossy, String.toList_ofList]

/-- A request that succeeds has a response, and prints it. -/
theorem exists_response_of_exitCode {s : Scene} {arguments : List String}
    (h : (run s ("request" :: arguments)).exitCode = 0) :
    ∃ d t r, readRequest arguments = .ok d ∧ openTransport s (arguments.drop 2) = .ok t ∧
      (t.dispatch d ⟨s.environment, []⟩ s.requestId s.network).result = .ok r ∧
      run s ("request" :: arguments) = ⟨0, responseText r, statusLine r,
        (t.dispatch d ⟨s.environment, []⟩ s.requestId s.network).rest⟩ := by
  have hfailed : (1 : UInt32) ≠ 0 := UInt32.zero_ne_one.symm
  have hrun : run s ("request" :: arguments) = runRequest s arguments := rfl
  rw [hrun] at h ⊢
  unfold runRequest at h ⊢
  cases hread : readRequest arguments with
  | error f =>
    rw [hread] at h
    exact absurd h hfailed
  | ok d =>
    cases hopen : openTransport s (arguments.drop 2) with
    | error f =>
      simp only [hread, hopen] at h
      exact absurd h hfailed
    | ok t =>
      cases hresult : (t.dispatch d ⟨s.environment, []⟩ s.requestId s.network).result with
      | error e =>
        simp only [hread, hopen, hresult] at h
        exact absurd h hfailed
      | ok r => exact ⟨d, t, r, rfl, rfl, hresult, by simp only [hresult]⟩

/-- **The output preserves the response.**  A request that succeeds has a response, which is what
the server replied to the last message.  If its body is JSON, the value is printed over several
lines, and if its numbers are integers of 64 bits, it is read back from there; if the body is not,
it is printed as text with each maximal ill-formed part replaced.  And a body that is JSON is always
a text in which nothing is replaced, and which is read as the same value. -/
theorem output_preserves_response {s : Scene} {arguments : List String}
    (h : (run s ("request" :: arguments)).exitCode = 0) :
    (∃ d t r, readRequest arguments = .ok d ∧ openTransport s (arguments.drop 2) = .ok t ∧
        (t.dispatch d ⟨s.environment, []⟩ s.requestId s.network).result = .ok r ∧
        s.network.Served (run s ("request" :: arguments)).network r ∧
        Preserves r (run s ("request" :: arguments)).stdout) ∧
      ∀ (r : Response) (v : Json.Value), r.json = .ok v →
        Text.Utf8.string? r.body = some r.text ∧ Json.parse r.text = .ok v := by
  refine ⟨?_, fun r v => Response.string?_body⟩
  obtain ⟨d, t, r, hread, hopen, hresult, hrun⟩ := exists_response_of_exitCode h
  rw [hrun]
  exact ⟨d, t, r, hread, hopen, hresult, Transport.served_of_dispatch hresult,
    preserves_responseText r⟩

/-- A server on the same machine that replies with a body. -/
def replying (body : List UInt8) : Network :=
  ⟨some (.address4 0x7F000001, 18080), [], [.reply 200 [] body 0], [], []⟩

/-- Its replies have this body. -/
theorem body_of_served {body : List UInt8} {n : Network} {r : Response}
    (h : (replying body).Served n r) : r.body = body := by
  obtain ⟨ms, m, fields, sent, missing, -, hanswer, hbody⟩ := h
  have hscript : ∀ k, Network.remaining [.reply 200 [] body 0] k = [.reply 200 [] body 0] := by
    intro k
    induction k with
    | zero => rfl
    | succ k ih => exact ih
  rw [Network.offerAll_eq, Network.nextAnswer, replying, hscript, List.head?_cons,
    Option.getD_some, Answer.reply.injEq] at hanswer
  obtain ⟨hstatus, -, rfl, -⟩ := hanswer
  rw [← hstatus, if_neg (by decide)] at hbody
  exact hbody.1

/-- Letters in three ways, the least integer and the greatest, and one name twice. -/
def lettersText : String :=
  "\x7b\"b\":1,\"a\":[\"\\u00e9\\ud83d\\ude00é\",-9223372036854775808]," ++
    "\"b\":18446744073709551615\x7d"

/-- The value that it writes. -/
def lettersValue : Json.Value :=
  .object [("a", .array [.string "é😀é",
    .number (.integer (-9223372036854775808))]), ("b", .number (.integer 18446744073709551615))]

/-- The arguments of a request that is sent to this server. -/
def plainArguments : List String := ["GET", "/users", "--no-auth", "--config", "--config"]

/-- A body that is JSON is printed as its value, and one with two ill-formed parts, the first of
which breaks off before a parenthesis and the second at the end, as text. -/
theorem output_preserves_response_of_replies :
    (run { localScene with network := replying (Text.Utf8.bytesOf lettersText) }
        ("request" :: plainArguments)).exitCode = 0 ∧
      (run { localScene with network := replying (Text.Utf8.bytesOf lettersText) }
        ("request" :: plainArguments)).stdout = lettersValue.prettyText ++ "\n" ∧
      Json.parse lettersValue.prettyText = .ok lettersValue ∧
      (run { localScene with network := replying [0x68, 0xC3, 0x28, 0xE2, 0x82] }
        ("request" :: plainArguments)).exitCode = 0 ∧
      (run { localScene with network := replying [0x68, 0xC3, 0x28, 0xE2, 0x82] }
        ("request" :: plainArguments)).stdout = "h\uFFFD(\uFFFD\n" := by
  have hjson : (run { localScene with network := replying (Text.Utf8.bytesOf lettersText) }
      ("request" :: plainArguments)).exitCode = 0 := by decide +kernel
  have htext : (run { localScene with network := replying [0x68, 0xC3, 0x28, 0xE2, 0x82] }
      ("request" :: plainArguments)).exitCode = 0 := by decide +kernel
  obtain ⟨⟨-, -, r, -, -, -, hserved, hprinted⟩, -⟩ := output_preserves_response hjson
  obtain ⟨⟨-, -, r', -, -, -, hserved', hprinted'⟩, -⟩ := output_preserves_response htext
  have hvalue : r.json = .ok lettersValue := by
    rw [Response.json, body_of_served hserved]
    with_unfolding_all rfl
  have hwords : lettersValue.Throughout Json.Value.IsWord := by
    simp [lettersValue, Json.Value.Throughout, Json.Value.ThroughoutItems,
      Json.Value.ThroughoutMembers, Json.Value.IsWord, Json.FitsWord]
  obtain ⟨hstdout, hback⟩ := hprinted.value lettersValue hvalue
  have hnone : ∀ v, r'.json ≠ .ok v := by
    intro v hv
    have hfault : (Json.parseBytes [0x68, 0xC3, 0x28, 0xE2, 0x82]).isOk = false := by
      decide +kernel
    rw [Response.json, body_of_served hserved'] at hv
    rw [hv] at hfault
    cases hfault
  obtain ⟨text, hstdout', hreplaced⟩ := hprinted'.text hnone
  have hcs : "h\uFFFD(\uFFFD".toList = text.toList := by
    refine (hreplaced _).1 (Text.Utf8.replaced_iff.2 ?_)
    rw [body_of_served hserved']
    decide +kernel
  refine ⟨hjson, hstdout, hback hwords, htext, ?_⟩
  rw [hstdout', ← String.toList_inj.1 hcs]
  rfl

end CommandLine

end Courier
