/-! Application protocols guessed from well-known ports. A conversation is named after its
source port, and after its destination port if the first says nothing. -/
namespace TrafficMonitor.Network

/-- An application protocol, or none that is known. -/
inductive Application where
  | ftp | ssh | telnet | smtp | dns | dhcp | http | pop3 | nntp | ntp | imap | snmp | irc | https
  | unknown
deriving Repr, DecidableEq

namespace Application

def all : List Application :=
  [ftp, ssh, telnet, smtp, dns, dhcp, http, pop3, nntp, ntp, imap, snmp, irc, https, unknown]

def name : Application → String
  | ftp => "FTP"
  | ssh => "SSH"
  | telnet => "Telnet"
  | smtp => "SMTP"
  | dns => "DNS"
  | dhcp => "DHCP"
  | http => "HTTP"
  | pop3 => "POP3"
  | nntp => "NNTP"
  | ntp => "NTP"
  | imap => "IMAP"
  | snmp => "SNMP"
  | irc => "IRC"
  | https => "HTTPS"
  | unknown => "Unknown"

/-- The protocol of a name. Upper and lower case differ. -/
def ofName? (name : String) : Option Application := all.find? (·.name = name)

/-- The protocol served at a port. -/
def ofPort (port : Int) : Application :=
  if port = 20 ∨ port = 21 then ftp
  else if port = 22 then ssh
  else if port = 23 then telnet
  else if port = 25 then smtp
  else if port = 53 then dns
  else if port = 67 ∨ port = 68 then dhcp
  else if port = 80 then http
  else if port = 110 then pop3
  else if port = 119 then nntp
  else if port = 123 then ntp
  else if port = 143 then imap
  else if port = 161 then snmp
  else if port = 194 then irc
  else if port = 443 then https
  else unknown

/-- The protocol of a conversation. The source port is asked first. -/
def ofPorts (source destination : Int) : Application :=
  if ofPort source = unknown then ofPort destination else ofPort source

end Application

end TrafficMonitor.Network
