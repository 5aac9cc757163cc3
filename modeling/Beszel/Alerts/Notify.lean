import Beszel.Alerts.QuietHours
import Beszel.Hub.StableIds
import Beszel.Machinery.UrlQuery

/-!
# Alerts/Notify — how a notification leaves the hub

    SendAlert ──▸ SendShoutrrrAlert ──▸ url?key=value&title=…  with a message
              └─▸ mail

`SendAlert` and `SendShoutrrrAlert` of `internal/alerts/alerts.go`.  Texts are bytes, as they are in
a query.  What `url.Parse` gives is a scheme, a query and a rest that nothing here looks at.
-/

namespace Beszel

open Machinery UrlQuery

namespace Notify

/-- The bytes of a text of the source. -/
abbrev bytes (s : String) : List UInt8 := StableIds.bytesOf s

/-- `AlertMessageData`. -/
structure AlertMessageData where
  userID : String
  systemID : String
  title : List UInt8
  message : List UInt8
  link : List UInt8
  linkText : List UInt8

/-- `UserNotificationSettings`. -/
structure UserNotificationSettings where
  emails : List (List UInt8)
  webhooks : List (List UInt8)

/-- `url.URL`. -/
structure URL (ρ : Type) where
  scheme : String
  rawQuery : List UInt8
  rest : ρ

/-- `URL.Query`. -/
def URL.query {ρ : Type} (u : URL ρ) : Values := parseQuery u.rawQuery

/-- `supportsTitle`. -/
def supportsTitle : List String :=
  ["bark", "discord", "gotify", "ifttt", "join", "lark", "ntfy", "opsgenie", "pushbullet",
    "pushover", "slack", "teams", "telegram", "zulip"]

/-- `titlekey` of a template. -/
def titleKey (queryParams : Values) : List UInt8 :=
  let titleKey := queryParams.get (bytes "titlekey")
  if titleKey = [] then bytes "title" else titleKey

/-- "Add title". -/
def addTitle (scheme : String) (title : List UInt8) (queryParams : Values)
    (message : List UInt8) : Values × List UInt8 :=
  if scheme ∈ supportsTitle then (queryParams.add (bytes "title") title, message)
  else if scheme = "mattermost" then
    (queryParams, bytes "##### " ++ title ++ bytes "\n\n" ++ message)
  else if scheme = "generic" ∧ queryParams.has (bytes "template") then
    (queryParams.add (bytes "$" ++ titleKey queryParams) title, message)
  else (queryParams, title ++ bytes "\n\n" ++ message)

/-- "Add link". -/
def addLink (scheme : String) (link linkText : List UInt8) (queryParams : Values)
    (message : List UInt8) : Values × List UInt8 :=
  if scheme = "ntfy" then
    (queryParams.add (bytes "Actions") (bytes "view, " ++ linkText ++ bytes ", " ++ link), message)
  else if scheme = "lark" then (queryParams.add (bytes "link") link, message)
  else if scheme = "bark" then (queryParams.add (bytes "url") link, message)
  else (queryParams, message ++ bytes "\n\n" ++ link)

/-- What is given to `shoutrrr.Send`. -/
structure Request (ρ : Type) where
  url : URL ρ
  message : List UInt8

section Send

variable {ρ ε : Type}

/-- The request of `SendShoutrrrAlert` for a URL. -/
def request (parsedURL : URL ρ) (title message link linkText : List UInt8) : Request ρ :=
  let titled := addTitle parsedURL.scheme title parsedURL.query message
  let linked := addLink parsedURL.scheme link linkText titled.1 titled.2
  ⟨{ parsedURL with rawQuery := linked.1.encode }, linked.2⟩

/-- The errors of `SendShoutrrrAlert`. -/
inductive ShoutrrrError (ε : Type)
  | parsing (err : ε)
  | sending (err : ε)

/-- **`SendShoutrrrAlert`**: the request, if there is one, and the error. -/
def sendShoutrrrAlert (parse : List UInt8 → Except ε (URL ρ)) (send : Request ρ → Option ε)
    (notificationUrl title message link linkText : List UInt8) :
    Option (Request ρ) × Option (ShoutrrrError ε) :=
  match parse notificationUrl with
  | .error err => (none, some (.parsing err))
  | .ok parsedURL =>
    let sent := request parsedURL title message link linkText
    (some sent, (send sent).map .sending)

/-- A mail, as far as the alert says what is in it; `receivers` is `To`. -/
structure Message where
  receivers : List (List UInt8)
  subject : List UInt8
  text : List UInt8

/-- What left the hub. -/
structure Sent (ρ : Type) where
  requests : List (Request ρ)
  mails : List Message

/-- The loop over the webhooks: an error is logged, and the next one is tried. -/
def sendWebhooks (parse : List UInt8 → Except ε (URL ρ)) (send : Request ρ → Option ε)
    (data : AlertMessageData) : List (List UInt8) → List (Request ρ)
  | [] => []
  | webhook :: webhooks =>
    let sent := sendShoutrrrAlert parse send webhook data.title data.message data.link data.linkText
    sent.1.toList ++ sendWebhooks parse send data webhooks

/-- **`SendAlert`**: what is sent, and the error.  `settings` is the row of the user with what could
be read of it, or the error of the query. -/
def sendAlert (parse : List UInt8 → Except ε (URL ρ)) (send : Request ρ → Option ε)
    (mail : Message → Option ε) (windows : List QuietHours.Window) (now : ℤ)
    (settings : Except ε UserNotificationSettings) (data : AlertMessageData) :
    Sent ρ × Option ε :=
  if QuietHours.silenced windows data.userID data.systemID now then (⟨[], []⟩, none)
  else
    match settings with
    | .error err => (⟨[], []⟩, some err)
    | .ok userAlertSettings =>
      let requests := sendWebhooks parse send data userAlertSettings.webhooks
      if userAlertSettings.emails.length = 0 then (⟨requests, []⟩, none)
      else
        let message : Message :=
          ⟨userAlertSettings.emails, data.title, data.message ++ bytes "\n\n" ++ data.link⟩
        (⟨requests, [message]⟩, mail message)

end Send

/-! ## What a service reads -/

/-- The parameter that has the title, if there is one. -/
def titleParams (scheme : String) (queryParams : Values) (title : List UInt8) : Values :=
  if scheme ∈ supportsTitle then [(bytes "title", title)]
  else if scheme = "generic" ∧ queryParams.has (bytes "template") then
    [(bytes "$" ++ titleKey queryParams, title)]
  else []

/-- What stands above the message: the title, if no parameter has it. -/
def heading (scheme : String) (queryParams : Values) (title : List UInt8) : List UInt8 :=
  match titleParams scheme queryParams title with
  | [] => (if scheme = "mattermost" then bytes "##### " else []) ++ title ++ bytes "\n\n"
  | _ :: _ => []

/-- The parameter that has the link, if there is one. -/
def linkParams (scheme : String) (link linkText : List UInt8) : Values :=
  if scheme = "ntfy" then
    [(bytes "Actions", bytes "view, " ++ linkText ++ bytes ", " ++ link)]
  else if scheme = "lark" then [(bytes "link", link)]
  else if scheme = "bark" then [(bytes "url", link)]
  else []

/-- What stands below it: the link, if no parameter has it. -/
def footer (scheme : String) (link linkText : List UInt8) : List UInt8 :=
  match linkParams scheme link linkText with
  | [] => bytes "\n\n" ++ link
  | _ :: _ => []

/-- **The title is a parameter or a heading**, and behind all parameters that there are. -/
theorem addTitle_eq (scheme : String) (title : List UInt8) (queryParams : Values)
    (message : List UInt8) :
    addTitle scheme title queryParams message =
      (queryParams ++ titleParams scheme queryParams title,
        heading scheme queryParams title ++ message) := by
  unfold addTitle heading titleParams
  by_cases htitle : scheme ∈ supportsTitle
  · simp only [if_pos htitle]
    rfl
  · simp only [if_neg htitle]
    by_cases hmattermost : scheme = "mattermost"
    · have hgeneric : ¬(scheme = "generic" ∧ queryParams.has (bytes "template")) :=
        fun h => absurd (hmattermost.symm.trans h.1) (by decide)
      simp only [if_pos hmattermost, if_neg hgeneric]
      exact Prod.ext (List.append_nil _).symm rfl
    · simp only [if_neg hmattermost]
      split_ifs
      · rfl
      · exact Prod.ext (List.append_nil _).symm rfl

/-- **The link is a parameter or a footer.** -/
theorem addLink_eq (scheme : String) (link linkText : List UInt8) (queryParams : Values)
    (message : List UInt8) :
    addLink scheme link linkText queryParams message =
      (queryParams ++ linkParams scheme link linkText,
        message ++ footer scheme link linkText) := by
  unfold addLink footer linkParams
  split_ifs
  · exact Prod.ext rfl (List.append_nil _).symm
  · exact Prod.ext rfl (List.append_nil _).symm
  · exact Prod.ext rfl (List.append_nil _).symm
  · exact Prod.ext (List.append_nil _).symm (List.append_assoc _ _ _)

/-- **A service reads what it should**: of every key the values in the notification URL, and behind
them what the alert adds; and around the message the title and the link, if no parameter has
them. -/
structure Delivers {ρ : Type} (data : AlertMessageData) (parsedURL : URL ρ) (r : Request ρ) :
    Prop where
  scheme : r.url.scheme = parsedURL.scheme
  rest : r.url.rest = parsedURL.rest
  values : ∀ key, r.url.query.all key = parsedURL.query.all key ++
    (titleParams parsedURL.scheme parsedURL.query data.title ++
      linkParams parsedURL.scheme data.link data.linkText).all key
  message : r.message = heading parsedURL.scheme parsedURL.query data.title ++ data.message ++
    footer parsedURL.scheme data.link data.linkText

section Delivery

variable {ρ ε : Type} {data : AlertMessageData} {parsedURL : URL ρ}

theorem delivers_request (data : AlertMessageData) (parsedURL : URL ρ) :
    Delivers data parsedURL
      (request parsedURL data.title data.message data.link data.linkText) where
  scheme := rfl
  rest := rfl
  values key := by
    have hquery : (request parsedURL data.title data.message data.link data.linkText).url.query =
        parseQuery (parsedURL.query ++ titleParams parsedURL.scheme parsedURL.query data.title ++
          linkParams parsedURL.scheme data.link data.linkText).encode := by
      unfold URL.query request
      dsimp only
      rw [addLink_eq, addTitle_eq]
      rfl
    rw [hquery, all_parseQuery_encode, List.append_assoc, Values.all_append]
  message := by
    unfold request
    dsimp only
    rw [addLink_eq, addTitle_eq]

/-- **An alert overrides no parameter** of the notification URL. -/
theorem Delivers.get_eq {r : Request ρ} (h : Delivers data parsedURL r) {key : List UInt8}
    (hkey : parsedURL.query.all key ≠ []) :
    r.url.query.get key = parsedURL.query.get key := by
  unfold Values.get
  rw [h.values, List.head?_append_of_ne_nil _ hkey]

/-- Every webhook with a URL gets its request, whatever became of those before. -/
theorem sendWebhooks_eq (parse : List UInt8 → Except ε (URL ρ)) (send : Request ρ → Option ε)
    (webhooks : List (List UInt8)) :
    sendWebhooks parse send data webhooks =
      (webhooks.filterMap fun webhook => (parse webhook).toOption).map fun parsedURL =>
        request parsedURL data.title data.message data.link data.linkText := by
  induction webhooks with
  | nil => rfl
  | cons webhook webhooks ih =>
    rw [sendWebhooks, ih, List.filterMap_cons]
    unfold sendShoutrrrAlert
    cases parse webhook with
    | error err => rfl
    | ok parsedURL => rfl

/-- **An alert that is not silenced is delivered.**  Whatever fails, in their order the webhooks
with a URL get one request each, of which the service reads the title, the message, the link and all
parameters of its URL as they were; and all addresses get one mail, which alone decides what is
returned. -/
theorem sendAlert_delivers (parse : List UInt8 → Except ε (URL ρ)) (send : Request ρ → Option ε)
    (mail : Message → Option ε) {windows : List QuietHours.Window} {now : ℤ}
    (settings : UserNotificationSettings)
    (hsilenced : QuietHours.silenced windows data.userID data.systemID now = false) :
    ∃ sent err, sendAlert parse send mail windows now (.ok settings) data = (sent, err) ∧
      List.Forall₂ (fun parsedURL r => Delivers data parsedURL r ∧
          ∀ key, parsedURL.query.all key ≠ [] → r.url.query.get key = parsedURL.query.get key)
        (settings.webhooks.filterMap fun webhook => (parse webhook).toOption) sent.requests ∧
      (settings.emails = [] → sent.mails = [] ∧ err = none) ∧
      (settings.emails ≠ [] → ∃ message, sent.mails = [message] ∧ err = mail message ∧
        message.receivers = settings.emails ∧ message.subject = data.title ∧
        message.text = data.message ++ bytes "\n\n" ++ data.link) := by
  have hrequests : List.Forall₂ (fun parsedURL r => Delivers data parsedURL r ∧
      ∀ key, parsedURL.query.all key ≠ [] → r.url.query.get key = parsedURL.query.get key)
      (settings.webhooks.filterMap fun webhook => (parse webhook).toOption)
      (sendWebhooks parse send data settings.webhooks) := by
    rw [sendWebhooks_eq]
    refine List.forall₂_map_right_iff.mpr (List.forall₂_same.mpr fun parsedURL _ => ?_)
    have h := delivers_request data parsedURL
    exact ⟨h, fun key hkey => h.get_eq hkey⟩
  rw [sendAlert, if_neg (Bool.eq_false_iff.mp hsilenced)]
  dsimp only
  split_ifs with hemails
  · have hnil : settings.emails = [] := List.length_eq_zero_iff.mp hemails
    exact ⟨_, _, rfl, hrequests, fun _ => ⟨rfl, rfl⟩, fun hne => absurd hnil hne⟩
  · have hne : settings.emails ≠ [] := fun hnil => hemails (List.length_eq_zero_iff.mpr hnil)
    exact ⟨_, _, rfl, hrequests, fun hnil => absurd hnil hne,
      fun _ => ⟨_, rfl, rfl, rfl, rfl, rfl⟩⟩

/-- An alert for `ntfy`, with a title that has the signs of a query in it. -/
theorem sendAlert_delivers_ntfy :
    ∃ r : Request Unit, r.url.query.all (bytes "title") = [bytes "disk > 80% & rising"] ∧
      r.url.query.all (bytes "priority") = [bytes "high"] := by
  let data : AlertMessageData :=
    ⟨"u", "s", bytes "disk > 80% & rising", bytes "m", bytes "http://hub", bytes "View"⟩
  let parsedURL : URL Unit := ⟨"ntfy", bytes "priority=high", ()⟩
  obtain ⟨sent, -, -, hrequests, -⟩ := @sendAlert_delivers Unit Unit data
    (fun _ => .ok parsedURL) (fun _ => none) (fun _ => none) [] 0
    ⟨[], [bytes "ntfy://host?priority=high"]⟩ rfl
  obtain ⟨r, -, ⟨hr, -⟩, -, -⟩ := List.forall₂_cons_left_iff.mp hrequests
  exact ⟨r, (hr.values _).trans (by decide +kernel), (hr.values _).trans (by decide +kernel)⟩

end Delivery

end Notify

end Beszel
