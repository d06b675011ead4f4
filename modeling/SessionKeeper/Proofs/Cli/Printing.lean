import SessionKeeper.Cli.Run
import SessionKeeper.Proofs.Database.Trace
import SessionKeeper.Proofs.Json.RoundTrip
import SessionKeeper.Proofs.Service.Scene

/-!
# What commands print

A command on sessions, tokens or cleanup asks its services first and prints when it has its answers.
What it prints comes in parts (`Part`), of which rows and the validity of a token have a form for
each format, and all other lines have one form only. Which parts there are does not depend on the
format (`run_eq_consult`). So in JSON a command that only reports prints one JSON value, from which
the table can be drawn; one that hands out a token prints the row as JSON and the token in lines
behind it; and one that only acts prints no JSON at all (`printed_in_json`).
-/

namespace SessionKeeper.Cli

/-! ## Commands over any store -/

/-- What answers the requests of a command, save for those to print. -/
structure Backend (σ : Type) where
  services : (r : Service.signature.Request) → StateM σ (Service.signature.Answer r)
  database : (r : Database.signature.Request) → StateM σ (Database.signature.Answer r)

namespace Backend

variable {σ α β : Type}

/-- Answer a request. What is printed is kept. -/
def answer (b : Backend σ) :
    (r : signature.Request) → StateM (σ × List String) (signature.Answer r)
  | .inl r => modifyGet fun s =>
    (((b.services r).run s.1).1, (((b.services r).run s.1).2, s.2))
  | .inr (.inl r) => modifyGet fun s =>
    (((b.database r).run s.1).1, (((b.database r).run s.1).2, s.2))
  | .inr (.inr (.print text)) => modifyGet fun s => ((), (s.1, s.2 ++ [text]))

/-- Run a command from start to end. -/
def perform (b : Backend σ) (x : Action α) (s : σ × List String) :
    Except Error α × σ × List String := (x.run.run b.answer).run s

variable (b : Backend σ)

theorem perform_bind_ok {x : Action α} {a : α} {s s' : σ × List String}
    (h : b.perform x s = (.ok a, s')) (f : α → Action β) :
    b.perform (x >>= f) s = b.perform (f a) s' := execute_bind_ok h f

theorem perform_bind_eq_ok {x : Action α} {f : α → Action β} {a : β} {s s' : σ × List String}
    (h : b.perform (x >>= f) s = (.ok a, s')) :
    ∃ c t, b.perform x s = (.ok c, t) ∧ b.perform (f c) t = (.ok a, s') := execute_bind_eq_ok h

@[simp] theorem perform_pure (a : α) (s : σ × List String) :
    b.perform (pure a : Action α) s = (.ok a, s) := rfl

@[simp] theorem perform_throw (e : Error) (s : σ × List String) :
    b.perform (throw e : Action α) s = (.error e, s) := rfl

@[simp] theorem perform_liftExcept (x : Except Error α) (s : σ × List String) :
    b.perform (liftExcept x : Action α) s = (x, s) := execute_liftExcept x s

@[simp] theorem perform_print (text : String) (s : σ × List String) :
    b.perform (print text) s = (.ok (), s.1, s.2 ++ [text]) := rfl

/-- An operation of the services prints nothing. -/
theorem perform_service (x : Service.Action α) (s : σ × List String) :
    b.perform (service x) s =
      ((execute b.services x s.1).1, (execute b.services x s.1).2, s.2) :=
  run_left (fun _ _ _ => rfl) x.run s.1 s.2

/-- The same where its error does not end the command. -/
theorem perform_attempt (x : Service.Action α) (s : σ × List String) :
    b.perform (ExceptT.lift (service x).run) s =
      (.ok (execute b.services x s.1).1, (execute b.services x s.1).2, s.2) := by
  have hservice : ((service x).run.run b.answer).run s = _ := b.perform_service x s
  show (((service x).run.bind fun a => .pure (Except.ok a)).run b.answer).run s = _
  rw [Prog.run_bind, StateT.run_bind, hservice]
  rfl

end Backend

/-! ## Parts -/

/-- A part of what is printed. -/
inductive Part where
  | row (fields : Fields)
  | rows (list : List Fields)
  /-- Whether a token can be exchanged. -/
  | validity (valid : Bool)
  | line (text : String)

namespace Part

/-- A part in print. -/
def text (format : OutputFormat) : Part → String
  | row fields => itemText format fields
  | rows list => listText format list
  | validity valid => validityText format valid
  | line text => text

end Part

/-- Print parts. -/
def printParts (format : OutputFormat) (parts : List Part) : Action Unit :=
  parts.forM fun part => print (part.text format)

/-- A token that is handed out, as a line. -/
def tokenLine (value : String) : Part := .line (entryLine "Refresh token" value)

/-- What is done, as a line. -/
def doneLine (message : String) : Part := .line (successLine message)

/-- How a command on sessions, tokens or cleanup tells what has come of it. -/
inductive Report where
  /-- It shows what there is. -/
  | data
  /-- It hands out a token. -/
  | token
  /-- It says that something is done. -/
  | notice
deriving DecidableEq

/-- How a command tells what has come of it; none for the commands on users and migrations. -/
def Command.report? : Command → Option Report
  | .sessionShow .. | .sessionList .. | .tokenCheck .. | .tokenInspect .. | .tokenChain ..
  | .cleanupRun .. => some .data
  | .sessionOpen .. | .tokenIssue .. | .tokenRotate .. => some .token
  | .sessionBind .. | .sessionTouch .. | .sessionRevoke .. | .sessionRevokeAll ..
  | .tokenRevoke .. => some .notice
  | .migrateRun | .userCreate .. | .userList .. | .userShow .. | .userDelete .. => none

/-- What a command on sessions, tokens or cleanup does before it prints, with what is to be
printed. -/
def consult (tokens : TokenSettings) (cleanup : CleanupSettings) : Command → Action (List Part)
  | .sessionOpen user thumbprint => do
    let (session, token) ←
      service (Sessions.openWithToken tokens (← identifier user) thumbprint)
    return [.row (sessionRow session), tokenLine token.value,
      .line (entryLine "Expires" token.record.expiresAt.toCell)]
  | .sessionShow id => do
    return [.row (sessionRow (← service (Sessions.get (← identifier id))))]
  | .sessionList user all => do
    return [.rows ((← service (Sessions.list (← identifier user) all)).map sessionRow)]
  | .sessionBind id thumbprint => do
    service (Sessions.bind (← identifier id) thumbprint)
    return [doneLine ("Session " ++ id ++ " bound")]
  | .sessionTouch id => do
    service (Sessions.touch (← identifier id))
    return [doneLine ("Session " ++ id ++ " touched")]
  | .sessionRevoke id => do
    service (Sessions.revoke (← identifier id))
    return [doneLine ("Session " ++ id ++ " revoked")]
  | .sessionRevokeAll user force => do
    let id ← identifier user
    confirm force
    let count ← service (Sessions.revokeAll id)
    return [doneLine ("Revoked " ++ toString count ++ " sessions")]
  | .tokenIssue session lifetime => do
    let id ← identifier session
    let token ← match lifetime with
      | some seconds => do service (Tokens.issue tokens id (← liftExcept (readLifetime seconds)))
      | none => service (Tokens.issueDefault tokens id)
    return [.row (tokenRow token.record), tokenLine token.value]
  | .tokenRotate token => do
    match ← ExceptT.lift (service (Tokens.rotate tokens token)).run with
    | .ok rotated =>
      return [.row (tokenRow rotated.record), tokenLine rotated.value,
        .line (entryLine "User" rotated.user.toText),
        .line (entryLine "Key thumbprint" (rotated.thumbprint.getD absent))]
    | .error e =>
      if e.kind = .replayDetected then print reuseWarning
      throw e
  | .tokenRevoke token => do
    service (Tokens.revoke token)
    return [doneLine "Token revoked"]
  | .tokenCheck token => do
    return [.validity (← service (Tokens.isCurrentAndValid token))]
  | .tokenInspect token => do
    return [.row (statusRow (← service (Tokens.inspect token)))]
  | .tokenChain session => do
    return [.rows ((← service (Tokens.chain (← identifier session))).map tokenRow)]
  | .cleanupRun force => do
    confirm force
    return [.row (reportRow (← service (Cleanup.runOnce cleanup)))]
  | .migrateRun | .userCreate .. | .userList .. | .userShow .. | .userDelete .. => return []

/-- A command has all its answers before it prints, and only what it prints depends on the
format. -/
theorem run_eq_consult (c : Context) {command : Command} (h : command.report? ≠ none) :
    run c command = consult c.tokens c.cleanup command >>= printParts c.format := by
  cases command with
  | migrateRun | userCreate | userList | userShow | userDelete => exact absurd rfl h
  | tokenIssue session lifetime =>
    cases lifetime <;>
      simp [run, issueToken, consult, printParts, tokenLine, Part.text, printItem, printToken]
  | tokenRotate token =>
    simp only [run, rotateToken, consult, bind_assoc]
    congr 1
    funext result
    cases result with
    | ok rotated => rfl
    | error e =>
      by_cases hkind : e.kind = .replayDetected <;> simp only [hkind, if_true, if_false] <;> rfl
  | _ =>
    simp [run, openSession, revokeAllSessions, consult, printParts, tokenLine, doneLine, Part.text,
      printItem, printList, printToken]

/-! ## What the parts are -/

/-- Parts that tell what has come of a command. The row of a token that is handed out does not hold
its value. -/
inductive Fits : Report → List Part → Prop where
  | row {fields : Fields} (h : fields.names ≠ ["valid"]) : Fits .data [.row fields]
  | rows (list : List Fields) : Fits .data [.rows list]
  | validity (valid : Bool) : Fits .data [.validity valid]
  | opened (session : Session) (value : String) (lines : List String) :
      Fits .token (.row (sessionRow session) :: tokenLine value :: lines.map .line)
  | issued (token : Token) (value : String) (lines : List String) :
      Fits .token (.row (tokenRow token) :: tokenLine value :: lines.map .line)
  | notice (message : String) : Fits .notice [doneLine message]

theorem Fits.token_eq {parts : List Part} (h : Fits .token parts) :
    ∃ (row : Fields) (value : String) (lines : List String),
      ((∃ session, row = sessionRow session) ∨ ∃ token, row = tokenRow token) ∧
        parts = .row row :: tokenLine value :: lines.map .line := by
  cases h with
  | opened session value lines => exact ⟨_, value, lines, .inl ⟨session, rfl⟩, rfl⟩
  | issued token value lines => exact ⟨_, value, lines, .inr ⟨token, rfl⟩, rfl⟩

section

variable {α β : Type}

/-- Where an action succeeds, it has printed nothing and its result is as told. -/
def Yields (x : Action α) (P : α → Prop) : Prop :=
  ∀ (σ : Type) (b : Backend σ) s a s', b.perform x s = (.ok a, s') → s'.2 = s.2 ∧ P a

variable {P : β → Prop}

theorem yields_pure {a : β} (h : P a) : Yields (pure a) P := by
  intro σ b s a' s' hrun
  cases hrun
  exact ⟨rfl, h⟩

theorem yields_liftExcept_bind {x : Except Error α} {f : α → Action β}
    (h : ∀ a, Yields (f a) P) : Yields (liftExcept x >>= f) P := by
  intro σ b s a s' hrun
  obtain ⟨c, t, hx, hf⟩ := b.perform_bind_eq_ok hrun
  rw [Backend.perform_liftExcept] at hx
  cases hx
  exact h c σ b s a s' hf

theorem yields_service_bind {x : Service.Action α} {f : α → Action β}
    (h : ∀ a, Yields (f a) P) : Yields (service x >>= f) P := by
  intro σ b s a s' hrun
  obtain ⟨c, t, hx, hf⟩ := b.perform_bind_eq_ok hrun
  rw [Backend.perform_service] at hx
  obtain ⟨-, rfl⟩ := Prod.mk.inj hx
  have hyields := h c σ b _ a s' hf
  exact hyields

theorem yields_confirm_bind {force : Bool} {f : Unit → Action β} (h : Yields (f ()) P) :
    Yields (confirm force >>= f) P := by
  cases force with
  | true => exact h
  | false =>
    intro σ b s a s' hrun
    obtain ⟨c, t, hx, -⟩ := b.perform_bind_eq_ok hrun
    cases hx

/-- What an operation comes to is looked at, and its error ends the action after all. -/
theorem yields_attempt_bind {x : Service.Action α} {f : Except Error α → Action β}
    (h : ∀ a, Yields (f (.ok a)) P) (herror : ∀ e, Yields (f (.error e)) P) :
    Yields (ExceptT.lift (service x).run >>= f) P := by
  intro σ b s a s' hrun
  obtain ⟨c, t, hx, hf⟩ := b.perform_bind_eq_ok hrun
  rw [Backend.perform_attempt] at hx
  obtain ⟨-, rfl⟩ := Prod.mk.inj hx
  cases c with
  | ok c =>
    have hyields := h c σ b _ a s' hf
    exact hyields
  | error e =>
    have hyields := herror e σ b _ a s' hf
    exact hyields

theorem yields_throw (e : Error) : Yields (throw e : Action β) P := by
  intro σ b s a s' hrun
  cases hrun

theorem yields_throw_after (x : Action α) (e : Error) :
    Yields (x >>= fun _ => (throw e : Action β)) P := by
  intro σ b s a s' hrun
  obtain ⟨c, t, -, hf⟩ := b.perform_bind_eq_ok hrun
  cases hf

end

theorem consult_yields {report : Report} {command : Command}
    (h : command.report? = some report) (tokens : TokenSettings) (cleanup : CleanupSettings) :
    Yields (consult tokens cleanup command) (Fits report) := by
  cases command with
  | migrateRun | userCreate | userList | userShow | userDelete => cases h
  | sessionOpen user thumbprint =>
    cases h
    exact yields_liftExcept_bind fun id => yields_service_bind fun (session, token) =>
      yields_pure (.opened session token.value [_])
  | sessionShow id =>
    cases h
    exact yields_liftExcept_bind fun _ => yields_service_bind fun session =>
      yields_pure (.row (by simp [Fields.names, sessionRow]))
  | sessionList | tokenChain =>
    cases h
    exact yields_liftExcept_bind fun _ => yields_service_bind fun _ => yields_pure (.rows _)
  | sessionBind | sessionTouch | sessionRevoke =>
    cases h
    exact yields_liftExcept_bind fun _ => yields_service_bind fun _ => yields_pure (.notice _)
  | sessionRevokeAll user force =>
    cases h
    exact yields_liftExcept_bind fun _ => yields_confirm_bind <| yields_service_bind fun _ =>
      yields_pure (.notice _)
  | tokenIssue session lifetime =>
    cases h
    cases lifetime with
    | none =>
      exact yields_liftExcept_bind fun _ => yields_service_bind fun token =>
        yields_pure (.issued token.record token.value [])
    | some seconds =>
      exact yields_liftExcept_bind fun _ => yields_liftExcept_bind fun _ =>
        yields_service_bind fun token => yields_pure (.issued token.record token.value [])
  | tokenRotate token =>
    cases h
    refine yields_attempt_bind (x := Tokens.rotate tokens token) (fun rotated => ?_) fun e => ?_
    · exact yields_pure (.issued rotated.record rotated.value [_, _])
    · dsimp only
      split
      · exact yields_throw_after _ e
      · exact yields_throw e
  | tokenRevoke token =>
    cases h
    exact yields_service_bind fun _ => yields_pure (.notice _)
  | tokenCheck token =>
    cases h
    exact yields_service_bind fun valid => yields_pure (.validity valid)
  | tokenInspect token =>
    cases h
    exact yields_service_bind fun status => yields_pure (.row (by simp [Fields.names, statusRow]))
  | cleanupRun force =>
    cases h
    exact yields_confirm_bind <| yields_service_bind fun report =>
      yields_pure (.row (by simp [Fields.names, reportRow]))

/-! ## JSON -/

theorem members_obj (members : List (String × Json)) : (Json.obj members).members = members := by
  rw [Json.obj, Json.members, List.filterMap_map]
  exact List.filterMap_some

theorem Fields.tidy_toJson (fields : Fields) : fields.toJson.Tidy := by
  refine Json.tidy_obj fun m hm => ?_
  obtain ⟨⟨name, field⟩, -, rfl⟩ := List.mem_map.mp hm
  cases field <;> simp [Field.toJson]

/-- A value of a member as it stands in a table. -/
def cellOf : Json → String
  | .string (some s) => s
  | .bool b => if b then "true" else "false"
  | .number n => n.toText
  | _ => ""

theorem cellOf_toJson (field : Field) : cellOf field.toJson = field.cell := by
  cases field with
  | text s => rfl
  | flag b => rfl
  | count n => simp [Field.toJson, Field.cell, cellOf, Json.int, Numeral.ofInt, Numeral.toText]

/-- The names of the columns that an object has in a table. -/
def columnsOf (v : Json) : List String := v.members.map Prod.fst

/-- The cells of the row that an object is in a table. -/
def cellsOf (v : Json) : List String := v.members.map fun m => cellOf m.2

/-- The table of what is printed as JSON. An object that tells nothing but the validity of a token
is a word. -/
def tableOf : Json → String
  | .array [] => "No results found."
  | .array (row :: rows) =>
    "\n".intercalate (Table.lines (columnsOf row) ((row :: rows).map cellsOf))
  | v =>
    if columnsOf v = ["valid"] then if cellsOf v = ["true"] then "valid" else "invalid"
    else "\n".intercalate (Table.lines (columnsOf v) [cellsOf v])

theorem columnsOf_toJson (fields : Fields) : columnsOf fields.toJson = fields.names := by
  simp [columnsOf, Fields.toJson, members_obj, Fields.names]

theorem cellsOf_toJson (fields : Fields) : cellsOf fields.toJson = fields.cells := by
  simp [cellsOf, Fields.toJson, members_obj, Fields.cells, cellOf_toJson]

theorem tableOf_row {fields : Fields} (h : fields.names ≠ ["valid"]) :
    tableOf fields.toJson = itemText .table fields := by
  have htable : tableOf fields.toJson = if columnsOf fields.toJson = ["valid"] then
        if cellsOf fields.toJson = ["true"] then "valid" else "invalid"
      else "\n".intercalate (Table.lines (columnsOf fields.toJson) [cellsOf fields.toJson]) := rfl
  rw [htable, columnsOf_toJson, cellsOf_toJson, if_neg h]
  rfl

theorem tableOf_rows (list : List Fields) :
    tableOf (.array (list.map Fields.toJson)) = listText .table list := by
  cases list with
  | nil => rfl
  | cons fields list =>
    simp [tableOf, listText, columnsOf_toJson, cellsOf_toJson, Function.comp_def]

/-- The validity of a token as JSON. -/
def validityJson (valid : Bool) : Json := .obj [("valid", .bool valid)]

theorem tableOf_validity (valid : Bool) :
    tableOf (validityJson valid) = validityText .table valid := by
  cases valid <;> decide

theorem validityText_json (valid : Bool) :
    validityText .json valid = (validityJson valid).compact := by
  cases valid <;> decide

/-- What stands on standard output: a line for each text. -/
def onLines (texts : List String) : String := String.join (texts.map (· ++ "\n"))

section

variable {v : Json}

theorem ends_newline (rest : List Char) : Json.Ends ('\n' :: rest) :=
  Json.ends_of_isSpace rfl rest

theorem ofText?_onLines_pretty (hv : v.Tidy) : Json.ofText? (onLines [v.pretty]) = some v := by
  rw [Json.ofText?_of_write .lines 0 hv (ends_newline [])]
  · rfl
  · simp [onLines, Json.pretty, Json.toList_prettyAt]

theorem ofText?_onLines_compact (hv : v.Tidy) : Json.ofText? (onLines [v.compact]) = some v := by
  rw [Json.ofText?_of_write .dense 0 hv (ends_newline [])]
  · rfl
  · simp [onLines, Json.toList_compact 0]

theorem toList_onLines_cons (text : String) (texts : List String) :
    (onLines (text :: texts)).toList = text.toList ++ '\n' :: (onLines texts).toList := by
  simp [onLines]

theorem exists_entryLine (value : String) :
    ∃ cs, (entryLine "Refresh token" value).toList = ' ' :: ' ' :: 'R' :: cs := by
  have hname : ("  " ++ Text.padRight 24 ("Refresh token" ++ ":")).toList =
      ' ' :: ' ' :: 'R' :: "efresh token:          ".toList := by decide
  refine ⟨"efresh token:          ".toList ++ (" " ++ value).toList, ?_⟩
  rw [entryLine, String.append_assoc, String.toList_append, hname]
  rfl

/-- Behind the row of a token that is handed out stands something that is no blank. -/
theorem ofText?_onLines_token (hv : v.Tidy) (value : String) (texts : List String) :
    Json.ofText? (onLines (v.pretty :: entryLine "Refresh token" value :: texts)) = none := by
  obtain ⟨cs, hline⟩ := exists_entryLine value
  rw [Json.ofText?_of_write .lines 0 hv (ends_newline
    (' ' :: ' ' :: 'R' :: cs ++ '\n' :: (onLines texts).toList))]
  · rfl
  · rw [toList_onLines_cons, toList_onLines_cons, hline, Json.pretty, Json.toList_prettyAt]

/-- No JSON begins with a check mark. -/
theorem ofText?_onLines_done (message : String) (texts : List String) :
    Json.ofText? (onLines (successLine message :: texts)) = none := by
  have htext : (onLines (successLine message :: texts)).toList =
      '✓' :: ' ' :: message.toList ++ '\n' :: (onLines texts).toList := by
    simp [toList_onLines_cons, successLine]
  rw [Json.ofText?, htext]
  rfl

end

/-! ## What stands on standard output -/

section

variable {σ : Type} (b : Backend σ)

theorem perform_printParts (format : OutputFormat) (parts : List Part) (s : σ × List String) :
    b.perform (printParts format parts) s =
      (.ok (), s.1, s.2 ++ parts.map (Part.text format)) := by
  induction parts generalizing s with
  | nil => simp [printParts]
  | cons part parts ih =>
    have hprint := b.perform_print (part.text format) s
    show b.perform (print (part.text format) >>= fun _ => printParts format parts) s = _
    rw [Backend.perform_bind_ok b hprint, ih, List.append_assoc]
    rfl

/-- Where a command succeeds, it prints the same parts in every format. -/
theorem perform_run {c : Context} {command : Command} {report : Report} {s s' : σ}
    {texts : List String} (hreport : command.report? = some report)
    (hrun : b.perform (run c command) (s, []) = (.ok (), s', texts)) :
    ∃ parts, Fits report parts ∧ ∀ format,
      b.perform (run { c with format := format } command) (s, []) =
        (.ok (), s', parts.map (Part.text format)) := by
  have hsome : command.report? ≠ none := by simp [hreport]
  rw [run_eq_consult c hsome] at hrun
  obtain ⟨parts, t, hconsult, hprint⟩ := b.perform_bind_eq_ok hrun
  obtain ⟨hquiet, hfits⟩ := consult_yields hreport c.tokens c.cleanup σ b _ _ _ hconsult
  rw [perform_printParts] at hprint
  cases hprint
  refine ⟨parts, hfits, fun format => ?_⟩
  rw [run_eq_consult _ hsome, b.perform_bind_ok hconsult, perform_printParts, hquiet]
  rfl

/-- Whatever answers a command on sessions, tokens or cleanup that succeeds in JSON: it succeeds as
a table with the same effect. If it shows what there is, the whole of standard output is one JSON
value, whatever texts the rows hold, and the table is drawn from that value. If it hands out a
token, standard output is not JSON: behind the row, which is JSON and does not hold the token, the
token stands in a line as behind the table. If it says that something is done, no JSON is printed,
but the same line as in the other format. -/
theorem printed_in_json {c : Context} {command : Command} {s s' : σ} {texts : List String}
    (hrun : b.perform (run { c with format := .json } command) (s, []) = (.ok (), s', texts)) :
    (command.report? = some .data → ∃ v, Json.ofText? (onLines texts) = some v ∧
      b.perform (run { c with format := .table } command) (s, []) = (.ok (), s', [tableOf v])) ∧
    (command.report? = some .token → Json.ofText? (onLines texts) = none ∧
      ∃ (row : Fields) (value : String) (lines : List String),
        ((∃ session, row = sessionRow session) ∨ ∃ token, row = tokenRow token) ∧
        texts = row.toJson.pretty :: entryLine "Refresh token" value :: lines ∧
        Json.ofText? row.toJson.pretty = some row.toJson ∧
        b.perform (run { c with format := .table } command) (s, []) =
          (.ok (), s', itemText .table row :: entryLine "Refresh token" value :: lines)) ∧
    (command.report? = some .notice → Json.ofText? (onLines texts) = none ∧
      b.perform (run { c with format := .table } command) (s, []) = (.ok (), s', texts)) := by
  refine ⟨fun hreport => ?_, fun hreport => ?_, fun hreport => ?_⟩
  all_goals
    obtain ⟨parts, hfits, hformats⟩ := perform_run b hreport hrun
    have htexts : texts = parts.map (Part.text .json) := by
      have hjson := hrun.symm.trans (hformats .json)
      exact congrArg (·.2.2) hjson
    subst htexts
    have htable := hformats .table
    clear hrun hformats
  · cases hfits with
    | @row fields hnames =>
      refine ⟨fields.toJson, ofText?_onLines_pretty fields.tidy_toJson, ?_⟩
      rw [tableOf_row hnames]
      exact htable
    | rows list =>
      have htidy : (Json.array (list.map Fields.toJson)).Tidy := by
        refine .array fun v hv => ?_
        obtain ⟨fields, -, rfl⟩ := List.mem_map.mp hv
        exact fields.tidy_toJson
      refine ⟨_, ofText?_onLines_pretty htidy, ?_⟩
      rw [tableOf_rows]
      exact htable
    | validity valid =>
      refine ⟨validityJson valid, ?_, ?_⟩
      · have htidy : (validityJson valid).Tidy := Json.tidy_obj (by simp)
        simp only [List.map_cons, List.map_nil, Part.text, validityText_json]
        exact ofText?_onLines_compact htidy
      · rw [tableOf_validity]
        exact htable
  · obtain ⟨row, value, lines, hrow, rfl⟩ := hfits.token_eq
    have hlines : ∀ format, (lines.map Part.line).map (Part.text format) = lines := by
      simp [Part.text, Function.comp_def]
    simp only [List.map_cons, hlines] at htable ⊢
    exact ⟨ofText?_onLines_token row.tidy_toJson value lines, row, value, lines, hrow, rfl,
      Json.ofText?_pretty row.tidy_toJson, htable⟩
  · cases hfits with
    | notice message => exact ⟨ofText?_onLines_done message [], htable⟩

end

/-! ## A session that a token is issued for -/

/-- The services run in a scene, and there is no database. -/
def withoutDatabase : Backend Service.Scene where
  services := Service.Scene.answer
  database r := pure (Database.inTurn [] [] r)

/-- A store with a session. -/
def opened : Service.Scene :=
  ⟨Memory.empty.applyAll [.addUser ⟨1⟩, .ask (.createSession (.start ⟨7⟩ ⟨1⟩ none ⟨0, false⟩))],
    { clock := ⟨0, false⟩, draw := fun _ => List.replicate Opaque.byteCount 0 }⟩

/-- The command that issues a token for this session. -/
def firstIssue : Command := .tokenIssue "00000000-0000-0000-0000-000000000007" none

theorem exists_of_toOption {σ : Type} {out : Except Error Unit × σ × List String}
    (h : out.1.toOption = some ()) : ∃ s' texts, out = (.ok (), s', texts) := by
  obtain ⟨a, s', texts⟩ := out
  cases a with
  | error e => cases h
  | ok a => exact ⟨s', texts, rfl⟩

theorem firstIssue_succeeds : ∃ s' texts,
    withoutDatabase.perform (run ⟨{}, {}, .json⟩ firstIssue) (opened, []) = (.ok (), s', texts) :=
  exists_of_toOption (by decide +kernel)

theorem printed_in_json_issued : ∃ s' row value lines,
    withoutDatabase.perform (run ⟨{}, {}, .json⟩ firstIssue) (opened, []) =
        (.ok (), s', row.toJson.pretty :: entryLine "Refresh token" value :: lines) ∧
      withoutDatabase.perform (run ⟨{}, {}, .table⟩ firstIssue) (opened, []) =
        (.ok (), s', itemText .table row :: entryLine "Refresh token" value :: lines) := by
  obtain ⟨s', texts, hrun⟩ := firstIssue_succeeds
  obtain ⟨-, row, value, lines, -, rfl, -, htable⟩ :=
    (printed_in_json withoutDatabase (c := ⟨{}, {}, .json⟩) hrun).2.1 rfl
  exact ⟨s', row, value, lines, hrun, htable⟩

/-- A token is issued in JSON, and standard output is not JSON. -/
theorem issued_not_in_json : ∃ s' texts,
    withoutDatabase.perform (run ⟨{}, {}, .json⟩ firstIssue) (opened, []) = (.ok (), s', texts) ∧
      Json.ofText? (onLines texts) = none := by
  obtain ⟨s', texts, hrun⟩ := firstIssue_succeeds
  obtain ⟨parts, hfits, hformats⟩ := perform_run withoutDatabase rfl hrun
  obtain ⟨row, value, lines, -, rfl⟩ := hfits.token_eq
  exact ⟨s', _, hformats .json, ofText?_onLines_token row.tidy_toJson value _⟩

end SessionKeeper.Cli
