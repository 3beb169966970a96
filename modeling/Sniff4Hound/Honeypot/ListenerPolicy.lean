import Sniff4Hound.Honeypot.ServiceReplies

/-!
# Which ports a listener may have

`listener_port_allowed` of `honeypot_ports.py`, with the sets of ports that it reads.
-/

namespace Sniff4Hound.Honeypot

inductive Proto
  | tcp
  | udp
deriving DecidableEq

/-- The `source` of a listener's row. -/
inductive Source
  | builtin
  | custom
deriving DecidableEq

/-! ## Ports -/

def DNS_TLS_TCP_PORTS : List Nat := [853]
def AUTH_TCP_PORTS : List Nat := [49, 88, 464, 749]
def FILE_SHARING_TCP_PORTS : List Nat := [111, 512, 513, 514, 515, 548, 873, 2049, 3260]
def DATABASE_TCP_PORTS : List Nat := [1433, 1434, 1521, 1830, 2483, 2484, 3050, 50000]
def SEARCH_BIGDATA_TCP_PORTS : List Nat :=
  [7199, 9042, 9160, 9300, 50010, 50030, 50060, 50070, 50075, 50090]
def REMOTE_ACCESS_TCP_PORTS : List Nat :=
  [106, 199, 902, 1723, 3389, 3390, 4899, 5900, 5901, 5902, 5903, 5904, 5905, 5985, 5986, 6000,
    6001, 6002, 6129, 7070]
def MESSAGING_TCP_PORTS : List Nat := [5222, 5269, 5555, 61613, 61614, 61616]
def DEVOPS_TCP_PORTS : List Nat :=
  [2181, 2375, 2376, 2379, 2380, 4789, 5000, 5001, 6443, 8009, 8089, 10050, 10051, 10250, 10255,
    11211]
def LEGACY_TCP_PORTS : List Nat :=
  [1, 7, 9, 13, 17, 19, 37, 43, 70, 79, 101, 113, 119, 179, 264, 427, 444, 563, 646, 1080, 9100]
def GENERIC_TLS_TCP_PORTS : List Nat := [853, 563, 2484]
def DHCP_UDP_PORTS : List Nat := [67, 68, 546, 547]
def TFTP_UDP_PORTS : List Nat := [69]
def NETBIOS_UDP_PORTS : List Nat := [137, 138]
def IPSEC_UDP_PORTS : List Nat := [500, 4500, 1701]
def RIP_UDP_PORTS : List Nat := [520]
def SSDP_UDP_PORTS : List Nat := [1900]
def MEMCACHED_UDP_PORTS : List Nat := [11211]
def KERBEROS_UDP_PORTS : List Nat := [88, 464]
def RPC_UDP_PORTS : List Nat := [111, 135, 2049]
def VPN_UDP_PORTS : List Nat := [1194, 51820]
def QUIC_UDP_PORTS : List Nat := [443, 8443]
def IPMI_UDP_PORTS : List Nat := [623]
def MSSQL_UDP_PORTS : List Nat := [1434]
def DISCOVERY_UDP_PORTS : List Nat := [177, 3702, 5351, 10080]
def REALTIME_UDP_PORTS : List Nat := [3478, 5004, 5005, 9987, 27015, 27016, 27960]
def COAP_UDP_PORTS : List Nat := [5683, 5684]
def ICS_OT_UDP_PORTS : List Nat := [102, 502, 2222, 44818, 47808]
def OVERLAY_UDP_PORTS : List Nat := [4789, 6081]

def GENERIC_TCP_PORTS : List Nat :=
  AUTH_TCP_PORTS ++ FILE_SHARING_TCP_PORTS ++ DATABASE_TCP_PORTS ++ SEARCH_BIGDATA_TCP_PORTS ++
    REMOTE_ACCESS_TCP_PORTS ++ MESSAGING_TCP_PORTS ++ DEVOPS_TCP_PORTS ++ ICS_OT_TCP_PORTS ++
    LEGACY_TCP_PORTS ++ GENERIC_TLS_TCP_PORTS

def TLS_TCP_PORTS : List Nat :=
  HTTPS_TCP_PORTS ++ FTPS_PORTS ++ SMTPS_PORTS ++ POP3S_PORTS ++ IMAPS_PORTS ++ LDAPS_PORTS ++
    MQTTS_PORTS ++ AMQPS_PORTS ++ DNS_TLS_TCP_PORTS ++ GENERIC_TLS_TCP_PORTS

/-- `DEFAULT_ENABLED_PORTS`, as sets. -/
def DEFAULT_ENABLED_PORTS : Proto → List Nat
  | .tcp =>
    HTTP_TCP_PORTS ++ HTTPS_TCP_PORTS ++ FTP_PORTS ++ FTPS_PORTS ++ SMTP_PORTS ++ SMTPS_PORTS ++
      POP3_PORTS ++ POP3S_PORTS ++ IMAP_PORTS ++ IMAPS_PORTS ++ TELNET_PORTS ++ SSH_PORTS ++
      MYSQL_PORTS ++ POSTGRES_PORTS ++ LDAP_PORTS ++ LDAPS_PORTS ++ REDIS_PORTS ++
      MEMCACHED_TCP_PORTS ++ VNC_PORTS ++ RDP_PORTS ++ SMB_PORTS ++ DNS_TCP_PORTS ++ MONGODB_PORTS ++
      MQTT_PORTS ++ MQTTS_PORTS ++ AMQP_PORTS ++ AMQPS_PORTS ++ RTSP_PORTS ++ GENERIC_TCP_PORTS
  | .udp =>
    DNS_UDP_PORTS ++ DHCP_UDP_PORTS ++ TFTP_UDP_PORTS ++ NTP_UDP_PORTS ++ NETBIOS_UDP_PORTS ++
      SNMP_UDP_PORTS ++ IPSEC_UDP_PORTS ++ SYSLOG_UDP_PORTS ++ RIP_UDP_PORTS ++ RADIUS_UDP_PORTS ++
      SSDP_UDP_PORTS ++ SIP_UDP_PORTS ++ MDNS_UDP_PORTS ++ MEMCACHED_UDP_PORTS ++
      KERBEROS_UDP_PORTS ++ RPC_UDP_PORTS ++ VPN_UDP_PORTS ++ QUIC_UDP_PORTS ++ IPMI_UDP_PORTS ++
      MSSQL_UDP_PORTS ++ DISCOVERY_UDP_PORTS ++ REALTIME_UDP_PORTS ++ COAP_UDP_PORTS ++
      ICS_OT_UDP_PORTS ++ OVERLAY_UDP_PORTS

/-- `CUSTOM_LISTENER_DENY_PORTS`, without the ports below 1024. -/
def CUSTOM_LISTENER_DENY_PORTS : Proto → List Nat
  | .tcp =>
    SMB_PORTS ++ FILE_SHARING_TCP_PORTS ++ AUTH_TCP_PORTS ++ DEVOPS_TCP_PORTS ++
      DATABASE_TCP_PORTS ++ SEARCH_BIGDATA_TCP_PORTS ++ REMOTE_ACCESS_TCP_PORTS ++
      MEMCACHED_TCP_PORTS ++ REDIS_PORTS ++ MONGODB_PORTS
  | .udp =>
    DHCP_UDP_PORTS ++ DNS_UDP_PORTS ++ NTP_UDP_PORTS ++ SNMP_UDP_PORTS ++ RPC_UDP_PORTS ++
      RADIUS_UDP_PORTS ++ SSDP_UDP_PORTS ++ MEMCACHED_UDP_PORTS ++ IPMI_UDP_PORTS ++ MDNS_UDP_PORTS

/-! ## The policy -/

def listener_port_allowed (proto : Proto) (port : Nat) (source : Source) : Bool :=
  if port < 1 ∨ port > 65535 then false
  else if source = .builtin ∧ port ∈ DEFAULT_ENABLED_PORTS proto then true
  else !decide (port < 1024 ∨ port ∈ CUSTOM_LISTENER_DENY_PORTS proto)

end Sniff4Hound.Honeypot
