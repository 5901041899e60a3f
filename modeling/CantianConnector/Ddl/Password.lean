import CantianConnector.Ddl.SqlText

/-!
# The current password of a user who changes a password

A user who changes the own password may have to give the current one in a `REPLACE` clause. The
node checks it, and removes the clause from the statement that it forwards, since the other nodes
execute it for another user. `ctc_verify_password4existed_user` compares the password with the
stored one and then answers that they match, whatever the comparison has found.
-/

namespace CantianConnector.Ddl

/-! ## The server -/

/-- `LEX_USER` of a user list. The names of `CURRENT_USER` are missing. -/
structure LexUser where
  user : Option SqlText
  host : Option SqlText
  usesReplaceClause : Bool
  currentAuth : SqlText

/-- `LEX_USER` with its names. -/
structure NamedUser where
  user : SqlText
  host : SqlText
  usesReplaceClause : Bool
  currentAuth : SqlText

/-- `ACL_USER`: the plugin, and `m_auth_string` of the primary credential. -/
structure AclUser where
  plugin : SqlText
  authString : SqlText

/-- `st_mysql_auth`. `compare_password_with_hash` returns 0 for a match, and sets `is_error`. -/
structure AuthPlugin where
  usesInternalStorage : Bool
  comparePasswordWithHash : Option (SqlText → SqlText → Int × Bool)

/-- What the server answers. `sameHost` is `my_strcasecmp` with `my_charset_latin1`. -/
structure Server where
  getCurrentUser : LexUser → NamedUser
  sameHost : SqlText → SqlText → Bool
  findAclUser : SqlText → SqlText → Option AclUser
  lockPlugin : SqlText → Option AuthPlugin

/-- The session: `user`, `priv_user` and `priv_host` of its security context, and
`MODE_NO_BACKSLASH_ESCAPES`. -/
structure Session where
  user : SqlText
  privUser : SqlText
  privHost : SqlText
  noBackslashEscapes : Bool

/-! ## The rewriting -/

/-- `ctc_verify_password4existed_user`: nothing when it fails, else `res`. `locked` tells whether
the cache of the accounts has been locked. -/
def ctcVerifyPassword4existedUser (server : Server) (locked : Bool) (existedUser : NamedUser) :
    Option Bool :=
  if !locked then none
  else
    match server.findAclUser existedUser.host existedUser.user with
    | none => none
    | some aclUser =>
      match server.lockPlugin aclUser.plugin with
      | none => none
      | some auth =>
        let _res :=
          if aclUser.authString.length = 0 ∧ existedUser.currentAuth.length > 0 then some false
          else
            match auth.usesInternalStorage, auth.comparePasswordWithHash with
            | true, some compare =>
              let (ret, isError) := compare aclUser.authString existedUser.currentAuth
              if ret ≠ 0 ∧ isError = false then some false else none
            | _, _ => none
        -- `res` is set once more, in any case
        some true

/-- An empty `LEX_USER` gets the names of the session. -/
def fillCurrentUser (sess : Session) (user : LexUser) : LexUser :=
  if user.host = none ∧ user.user = none then
    { user with host := some sess.privHost, user := some sess.user }
  else user

/-- `is_self` of `ctc_rewrite_alter_user4update_passwd`. -/
def isSelf (server : Server) (sess : Session) (user : NamedUser) : Bool :=
  sess.user = user.user && server.sameHost user.host sess.privHost

/-- The loop of `ctc_rewrite_alter_user4update_passwd`: nothing when it fails, else
`existed_other_user_with_replace`. -/
def alterUserLoop (server : Server) (sess : Session) :
    List (LexUser × Bool) → Bool → Option Bool
  | [], existedOther => some existedOther
  | (tmpUser, locked) :: rest, existedOther =>
    let user := server.getCurrentUser (fillCurrentUser sess tmpUser)
    if user.usesReplaceClause then
      if isSelf server sess user then
        match ctcVerifyPassword4existedUser server locked user with
        | none => none
        | some false => none
        | some true => alterUserLoop server sess rest existedOther
      else alterUserLoop server sess rest true
    else alterUserLoop server sess rest existedOther

/-- `CURRENT_USER()` becomes the name of the session's user. -/
def nameCurrentUser (sess : Session) (sqlStr : SqlText) : SqlText :=
  let name := ctcDeserilizeUsernameWithSingleQuotation sess.noBackslashEscapes sess.user
  regexReplace currentUserPattern
    (" '".toList ++ name ++ "'@'".toList ++ sess.privHost ++ "'".toList) sqlStr

/-- `ctc_rewrite_alter_user4update_passwd`. -/
def ctcRewriteAlterUser4updatePasswd (server : Server) (sess : Session)
    (usersList : List (LexUser × Bool)) (sqlStr : SqlText) : Option SqlText :=
  match alterUserLoop server sess usersList false with
  | none => none
  | some existedOther =>
    let rwQuerySql := if existedOther then sqlStr else ctcRemoveReplaceClause4sql sqlStr
    some (nameCurrentUser sess rwQuerySql)

/-- `SET PASSWORD` gets the name of the user whose password it sets. -/
def namePasswordUser (sess : Session) (user : NamedUser) (sqlStr : SqlText) : SqlText :=
  let name := ctcDeserilizeUsernameWithSingleQuotation sess.noBackslashEscapes user.user
  regexReplaceAtStart addOrRewriteForPattern
    ("SET PASSWORD FOR '".toList ++ name ++ "'@'".toList ++ user.host ++ "' ".toList) sqlStr

/-- `ctc_rewrite_setpasswd`. The list of variables has one element. -/
def ctcRewriteSetpasswd (server : Server) (sess : Session) (user : NamedUser) (locked : Bool)
    (sqlStr : SqlText) : Option SqlText :=
  let rwQuerySql := namePasswordUser sess user sqlStr
  if user.usesReplaceClause ∧ sess.privUser = user.user then
    match ctcVerifyPassword4existedUser server locked user with
    | none => none
    | some true => some (ctcRemoveReplaceClause4sql rwQuerySql)
    | some false => none
  else some rwQuerySql

/-! ## What is to hold -/

/-- A statement that changes passwords, with the outcomes of the locks of the account cache. -/
inductive PasswordStmt where
  | alterUser (usersList : List (LexUser × Bool))
  | setPassword (user : NamedUser) (locked : Bool)

variable (server : Server) (sess : Session)

def PasswordStmt.rewrite (sqlStr : SqlText) : PasswordStmt → Option SqlText
  | .alterUser usersList => ctcRewriteAlterUser4updatePasswd server sess usersList sqlStr
  | .setPassword user locked => ctcRewriteSetpasswd server sess user locked sqlStr

/-- A user of a user list, by its names. -/
def nameListed (listed : LexUser × Bool) : NamedUser × Bool :=
  (server.getCurrentUser (fillCurrentUser sess listed.1), listed.2)

/-- The users of the statement. -/
def PasswordStmt.users : PasswordStmt → List (NamedUser × Bool)
  | .alterUser usersList => usersList.map (nameListed server sess)
  | .setPassword user locked => [(user, locked)]

/-- The user is the one of the session. -/
def PasswordStmt.Own (user : NamedUser) : PasswordStmt → Prop
  | .alterUser _ => isSelf server sess user = true
  | .setPassword _ _ =>
      sess.privUser = user.user ∧ server.sameHost user.host sess.privHost = true

/-- The rewritten text with the clause, and without it. -/
def PasswordStmt.kept (sqlStr : SqlText) : PasswordStmt → SqlText
  | .alterUser _ => nameCurrentUser sess sqlStr
  | .setPassword user _ => namePasswordUser sess user sqlStr

def PasswordStmt.stripped (sqlStr : SqlText) : PasswordStmt → SqlText
  | .alterUser _ => nameCurrentUser sess (ctcRemoveReplaceClause4sql sqlStr)
  | .setPassword user _ => ctcRemoveReplaceClause4sql (namePasswordUser sess user sqlStr)

/-- The comparison of the plugin does not find a mismatch, and does not fail. -/
def AuthPlugin.Accepts (auth : AuthPlugin) (authString password : SqlText) : Prop :=
  auth.usesInternalStorage = true →
    ∀ compare, auth.comparePasswordWithHash = some compare →
      compare authString password = (0, false)

/-- The current password that is given for the user is the stored one. -/
def Matches (user : NamedUser) : Prop :=
  ∃ aclUser auth, server.findAclUser user.host user.user = some aclUser ∧
    server.lockPlugin aclUser.plugin = some auth ∧
    (aclUser.authString = [] → user.currentAuth = []) ∧
    auth.Accepts aclUser.authString user.currentAuth

/-- Every user with a `REPLACE` clause is the session's own, and has given the current password. -/
def PasswordStmt.Verified (stmt : PasswordStmt) : Prop :=
  ∀ listed ∈ stmt.users server sess, listed.1.usesReplaceClause = true →
    stmt.Own server sess listed.1 ∧ Matches server listed.1

/-- The clause is removed from the statements that are verified only. -/
def PasswordStmt.Guarded (stmt : PasswordStmt) (sqlStr : SqlText) : Prop :=
  ∀ text, stmt.rewrite server sess sqlStr = some text → text ≠ stmt.kept sess sqlStr →
    stmt.Verified server sess

/-- The account can be read, and its plugin is there. -/
def Readable (listed : NamedUser × Bool) : Prop :=
  listed.2 = true ∧ ∃ aclUser,
    server.findAclUser listed.1.host listed.1.user = some aclUser ∧
    (server.lockPlugin aclUser.plugin).isSome = true

/-- The account is to be read, and cannot be. -/
def Unreadable (listed : NamedUser × Bool) : Prop :=
  listed.1.usesReplaceClause = true ∧ isSelf server sess listed.1 = true ∧
    ¬ Readable server listed

def otherWithReplace (listed : NamedUser × Bool) : Bool :=
  listed.1.usesReplaceClause && !isSelf server sess listed.1

/-- No wrong password is taken for the current one. -/
def PasswordStmt.NoneWrong : PasswordStmt → Prop
  | .alterUser usersList =>
    let users := usersList.map (nameListed server sess)
    (∃ listed ∈ users, Unreadable server sess listed) ∨
    users.any (otherWithReplace server sess) = true ∨
    ∀ listed ∈ users, listed.1.usesReplaceClause = true → isSelf server sess listed.1 = true →
      Matches server listed.1
  | .setPassword user locked =>
    user.usesReplaceClause = false ∨ sess.privUser ≠ user.user ∨
    ¬ Readable server (user, locked) ∨
    server.sameHost user.host sess.privHost = true ∧ Matches server user

/-! ## What the check decides -/

variable {server sess}

theorem ctcVerifyPassword_of_readable {listed : NamedUser × Bool} (h : Readable server listed) :
    ctcVerifyPassword4existedUser server listed.2 listed.1 = some true := by
  obtain ⟨hlocked, aclUser, hacl, hplugin⟩ := h
  obtain ⟨auth, hauth⟩ := Option.isSome_iff_exists.mp hplugin
  unfold ctcVerifyPassword4existedUser
  rw [hlocked, hacl]
  dsimp only
  rw [hauth]
  rfl

theorem ctcVerifyPassword_of_not_readable {listed : NamedUser × Bool}
    (h : ¬ Readable server listed) :
    ctcVerifyPassword4existedUser server listed.2 listed.1 = none := by
  unfold ctcVerifyPassword4existedUser
  cases hlocked : listed.2 with
  | false => rfl
  | true =>
    cases hacl : server.findAclUser listed.1.host listed.1.user with
    | none => rfl
    | some aclUser =>
      cases hauth : server.lockPlugin aclUser.plugin with
      | none =>
        dsimp only
        rw [hauth]
        rfl
      | some auth => exact absurd ⟨hlocked, aclUser, hacl, by rw [hauth]; rfl⟩ h

theorem alterUserLoop_of_unreadable {listed : LexUser × Bool} (rest : List (LexUser × Bool))
    (existedOther : Bool) (h : Unreadable server sess (nameListed server sess listed)) :
    alterUserLoop server sess (listed :: rest) existedOther = none := by
  obtain ⟨huses, hself, hreadable⟩ := h
  have hverify := ctcVerifyPassword_of_not_readable hreadable
  dsimp only [nameListed] at huses hself hverify
  rw [alterUserLoop, if_pos huses, if_pos hself, hverify]

theorem alterUserLoop_of_not_unreadable {listed : LexUser × Bool} (rest : List (LexUser × Bool))
    (existedOther : Bool) (h : ¬ Unreadable server sess (nameListed server sess listed)) :
    alterUserLoop server sess (listed :: rest) existedOther = alterUserLoop server sess rest
      (existedOther || otherWithReplace server sess (nameListed server sess listed)) := by
  rw [alterUserLoop]
  dsimp only [nameListed, otherWithReplace]
  split
  case isFalse huses =>
    rw [Bool.not_eq_true] at huses
    rw [huses, Bool.false_and, Bool.or_false]
  case isTrue huses =>
    split
    case isFalse hself =>
      rw [Bool.not_eq_true] at hself
      rw [huses, hself, Bool.not_false, Bool.and_true, Bool.or_true]
    case isTrue hself =>
      have hreadable : Readable server (nameListed server sess listed) := by
        by_contra hnot
        exact h ⟨huses, hself, hnot⟩
      have hverify := ctcVerifyPassword_of_readable hreadable
      dsimp only [nameListed] at hverify
      rw [hverify, hself, Bool.not_true, Bool.and_false, Bool.or_false]

theorem alterUserLoop_eq_none {usersList : List (LexUser × Bool)} (existedOther : Bool)
    (h : ∃ listed ∈ usersList.map (nameListed server sess), Unreadable server sess listed) :
    alterUserLoop server sess usersList existedOther = none := by
  induction usersList generalizing existedOther with
  | nil =>
    obtain ⟨_, hmem, _⟩ := h
    cases hmem
  | cons listed rest ih =>
    by_cases hfirst : Unreadable server sess (nameListed server sess listed)
    · exact alterUserLoop_of_unreadable rest existedOther hfirst
    · rw [alterUserLoop_of_not_unreadable rest existedOther hfirst]
      obtain ⟨other, hmem, hother⟩ := h
      rcases List.mem_cons.mp hmem with rfl | hmem
      · exact absurd hother hfirst
      · exact ih _ ⟨other, hmem, hother⟩

/-- Where all accounts can be read, the loop looks for other users with a `REPLACE` clause. -/
theorem alterUserLoop_eq_some {usersList : List (LexUser × Bool)} (existedOther : Bool)
    (h : ∀ listed ∈ usersList.map (nameListed server sess), ¬ Unreadable server sess listed) :
    alterUserLoop server sess usersList existedOther = some (existedOther ||
      (usersList.map (nameListed server sess)).any (otherWithReplace server sess)) := by
  induction usersList generalizing existedOther with
  | nil => rw [alterUserLoop, List.map_nil, List.any_nil, Bool.or_false]
  | cons listed rest ih =>
    rw [alterUserLoop_of_not_unreadable rest existedOther (h _ List.mem_cons_self),
      ih _ fun other hmem => h other (List.mem_cons_of_mem _ hmem), List.map_cons, List.any_cons,
      Bool.or_assoc]

/-! ## The condition -/

theorem alterUser_guarded_iff (usersList : List (LexUser × Bool)) (sqlStr : SqlText) :
    (PasswordStmt.alterUser usersList).Guarded server sess sqlStr ↔
      (PasswordStmt.alterUser usersList).stripped sess sqlStr =
        (PasswordStmt.alterUser usersList).kept sess sqlStr ∨
      (PasswordStmt.alterUser usersList).NoneWrong server sess := by
  unfold PasswordStmt.Guarded
  dsimp only [PasswordStmt.rewrite, PasswordStmt.stripped, PasswordStmt.kept,
    PasswordStmt.NoneWrong, PasswordStmt.Verified, PasswordStmt.users, PasswordStmt.Own]
  unfold ctcRewriteAlterUser4updatePasswd
  by_cases hread : ∃ listed ∈ usersList.map (nameListed server sess),
      Unreadable server sess listed
  · rw [alterUserLoop_eq_none false hread]
    exact iff_of_true (fun _ h => by cases h) (.inr (.inl hread))
  have hall : ∀ listed ∈ usersList.map (nameListed server sess),
      ¬ Unreadable server sess listed := fun listed hmem hun => hread ⟨listed, hmem, hun⟩
  rw [alterUserLoop_eq_some false hall, Bool.false_or]
  dsimp only
  cases hother : (usersList.map (nameListed server sess)).any (otherWithReplace server sess) with
  | true =>
    rw [if_pos rfl]
    exact iff_of_true (fun _ h hne => absurd (Option.some.inj h).symm hne) (.inr (.inr (.inl rfl)))
  | false =>
    rw [if_neg Bool.false_ne_true]
    -- without other users, every user with a clause is the session's own
    have hself : ∀ listed ∈ usersList.map (nameListed server sess),
        listed.1.usesReplaceClause = true → isSelf server sess listed.1 = true := by
      intro listed hmem huses
      have hnot := List.any_eq_false.mp hother listed hmem
      unfold otherWithReplace at hnot
      rw [huses, Bool.true_and, Bool.not_eq_true, Bool.not_eq_false'] at hnot
      exact hnot
    constructor
    · intro hguarded
      by_cases hsame : nameCurrentUser sess (ctcRemoveReplaceClause4sql sqlStr) =
          nameCurrentUser sess sqlStr
      · exact .inl hsame
      · refine .inr (.inr (.inr fun listed hmem huses _ => ?_))
        exact (hguarded _ rfl hsame listed hmem huses).2
    · rintro hcond text htext hne listed hmem huses
      obtain rfl := Option.some.inj htext
      rcases hcond with hsame | hun | hany | hmatch
      · exact absurd hsame hne
      · exact absurd hun hread
      · cases hany
      · exact ⟨hself listed hmem huses, hmatch listed hmem huses (hself listed hmem huses)⟩

theorem setPassword_guarded_iff (user : NamedUser) (locked : Bool) (sqlStr : SqlText) :
    (PasswordStmt.setPassword user locked).Guarded server sess sqlStr ↔
      (PasswordStmt.setPassword user locked).stripped sess sqlStr =
        (PasswordStmt.setPassword user locked).kept sess sqlStr ∨
      (PasswordStmt.setPassword user locked).NoneWrong server sess := by
  unfold PasswordStmt.Guarded
  dsimp only [PasswordStmt.rewrite, PasswordStmt.stripped, PasswordStmt.kept,
    PasswordStmt.NoneWrong, PasswordStmt.Verified, PasswordStmt.users, PasswordStmt.Own]
  unfold ctcRewriteSetpasswd
  dsimp only
  by_cases hchecked : user.usesReplaceClause = true ∧ sess.privUser = user.user
  · rw [if_pos hchecked]
    obtain ⟨huses, hname⟩ := hchecked
    by_cases hread : Readable server (user, locked)
    · rw [ctcVerifyPassword_of_readable hread]
      dsimp only
      constructor
      · intro hguarded
        by_cases hsame : ctcRemoveReplaceClause4sql (namePasswordUser sess user sqlStr) =
            namePasswordUser sess user sqlStr
        · exact .inl hsame
        · have hverified := hguarded _ rfl hsame _ List.mem_cons_self huses
          exact .inr (.inr (.inr (.inr ⟨hverified.1.2, hverified.2⟩)))
      · rintro hcond text htext hne listed hmem -
        obtain rfl := Option.some.inj htext
        obtain rfl := List.mem_singleton.mp hmem
        rcases hcond with hsame | hnot | hother | hun | ⟨hhost, hmatch⟩
        · exact absurd hsame hne
        · exact absurd (huses.symm.trans hnot) Bool.noConfusion
        · exact absurd hname hother
        · exact absurd hread hun
        · exact ⟨⟨hname, hhost⟩, hmatch⟩
    · rw [ctcVerifyPassword_of_not_readable hread]
      exact iff_of_true (fun _ h => by cases h) (.inr (.inr (.inr (.inl hread))))
  · rw [if_neg hchecked]
    refine iff_of_true (fun _ h hne => absurd (Option.some.inj h).symm hne) (.inr ?_)
    cases huses : user.usesReplaceClause with
    | false => exact .inl rfl
    | true => exact .inr (.inl fun hname => hchecked ⟨huses, hname⟩)

/-- **When the check is not bypassed.** The clause is removed from verified statements only, if and
only if the text is the same without it, or no wrong password is taken for the current one. -/
theorem passwordCheck_guarded_iff (server : Server) (sess : Session) (stmt : PasswordStmt)
    (sqlStr : SqlText) : stmt.Guarded server sess sqlStr ↔
      stmt.stripped sess sqlStr = stmt.kept sess sqlStr ∨ stmt.NoneWrong server sess := by
  cases stmt with
  | alterUser usersList => exact alterUser_guarded_iff usersList sqlStr
  | setPassword user locked => exact setPassword_guarded_iff user locked sqlStr

/-- A text in which the pattern of the clause matches nowhere stays as it is. -/
theorem stripped_eq_kept {sqlStr : SqlText}
    (hnone : ∀ rest, rest <:+ sqlStr → replacePattern rest = none)
    (usersList : List (LexUser × Bool)) :
    (PasswordStmt.alterUser usersList).stripped sess sqlStr =
      (PasswordStmt.alterUser usersList).kept sess sqlStr := by
  dsimp only [PasswordStmt.stripped, PasswordStmt.kept]
  rw [ctcRemoveReplaceClause4sql, regexReplace_eq_self _ hnone]

/-- The account of a user whose stored password is `secret`. -/
def secretServer : Server where
  getCurrentUser user := ⟨user.user.getD [], user.host.getD [], user.usesReplaceClause,
    user.currentAuth⟩
  sameHost host host' := host = host'
  findAclUser _ _ := some ⟨"native".toList, "secret".toList⟩
  lockPlugin _ := some ⟨true, some fun hash password => (if hash = password then 0 else 1, false)⟩

/-- The user changes the own password and gives a wrong current one: the clause is removed. -/
theorem wrong_password_is_accepted :
    let sess : Session := ⟨"ann".toList, "ann".toList, "h".toList, false⟩
    let user : LexUser := ⟨some "ann".toList, some "h".toList, true, "guess".toList⟩
    let sqlStr := "ALTER USER ann IDENTIFIED BY 'new' REPLACE 'guess'".toList
    ctcRewriteAlterUser4updatePasswd secretServer sess [(user, true)] sqlStr =
        some "ALTER USER ann IDENTIFIED BY 'new' ".toList ∧
      ¬ (PasswordStmt.alterUser [(user, true)]).Guarded secretServer sess sqlStr := by
  intro sess user sqlStr
  have hrewrite : ctcRewriteAlterUser4updatePasswd secretServer sess [(user, true)] sqlStr =
      some "ALTER USER ann IDENTIFIED BY 'new' ".toList := by decide
  refine ⟨hrewrite, fun hguarded => ?_⟩
  have hverified := hguarded _ hrewrite (by decide) _ List.mem_cons_self rfl
  obtain ⟨aclUser, auth, hacl, hauth, -, haccepts⟩ := hverified.2
  obtain rfl := Option.some.inj hacl
  obtain rfl := Option.some.inj hauth
  exact absurd (haccepts rfl _ rfl) (by decide)

end CantianConnector.Ddl
