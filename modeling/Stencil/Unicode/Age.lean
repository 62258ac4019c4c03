/-
This file holds the version that gave each code point its meaning.
-/
import Stencil.Unicode.Packed

namespace Stencil.Unicode.Age

/-- The names of the versions from the first on. -/
def names : List (List String) :=
  [["1.1", "v11"], ["2.0", "v20"], ["2.1", "v21"], ["3.0", "v30"], ["3.1", "v31"], ["3.2", "v32"],
    ["4.0", "v40"], ["4.1", "v41"], ["5.0", "v50"], ["5.1", "v51"], ["5.2", "v52"],
    ["6.0", "v60"], ["6.1", "v61"], ["6.2", "v62"], ["6.3", "v63"], ["7.0", "v70"],
    ["8.0", "v80"], ["9.0", "v90"], ["10.0", "v100"], ["11.0", "v110"], ["12.0", "v120"],
    ["12.1", "v121"], ["13.0", "v130"], ["14.0", "v140"], ["15.0", "v150"], ["15.1", "v151"],
    ["16.0", "v160"]]

/-- The versions of all code points. Code points without a version have the last number. -/
def table : List String :=
  ["FvaddZahdafagrdcgkhni2yaedbg1oaadjaedqg2faidafhgehcgbaadmfdjbabjbXaaciaaapdXgaaXaaaXtaaX1laa",
   "jgaadbfaaadaaadaaadaaadrabeafegdhadlaad2baadlaad1iaajbdbfdd1uabfbabfbabfaiXabdhabhbafipfdipj",
   "bkblhpaX1fabXgaat1gaataaadbXbpamaXqbahmbjaaiiaabchhXWadXateakXdgamapejahaaigejaaaoaxahaaalza",
   "ejsacdcgfhalnabf2habdeaadoaadZabgjaedagndaXZdcgWdbXcgZhrj1qdafnX1WibXct1nkbXokaXXlbXalaXkseX",
   "_xaXbxeXaWhxamapkmfpbqaxhrjwkxatoraqWmapakcaag1uablraakaleaakblyabjelapbkbiahbiapcaaXhabXbab",
   "XvaaXgaaXaacXdabXaaaggabXbabXcaahhXaadXbaaXeabXuaakbsatbXagaaagaXfadXbabXvaaXgaaXbaaXbaaXbab",
   "XaaaXeadXbabXcacXajgXdaaXaagXoaajatjXcaaXgaagaaaXcaaXvaaXgaaXbaaXeabXjaaXcaaXcabXaaoXaacgbXj",
   "aamaggXaqfsaXcaaXhabXbabXvaaXgaaXbaaXagdabXhaajbXbabXcagXawbadXbaaXcabjbXkaagfljXbaaXfacXcaa",
   "XdacXbaaXaaaXbacXbacXcacXhaahcadXeacXcaaXdabXajfXaanXahlahgeXapcaathaaXcaaXwaaXjaapeabXaxajg",
   "aaXcaaXdagXbaaXbjaqbXaxbXbabjbXjagXauhjarapbaathaaXcaaXwaaXjaaXeabXbggaaXcaaXdagXbafXaxaaaXb",
   "abibXjaaXbiaylXasapbaawhaaXcaaXwaalpaalbsajfaajaXcaaXdaalardXcraagraqbabjbXjafjcrgjaXawbdaXr",
   "dcXxdaXidaXadbXgdcXaddXfdaXadaXhdfXjpbXcdlX1zadXYa1eXbaaXaaaXaubaauaaaXauaafudaaugaaucaaXaaa",
   "XaabubaaumaaucabXeaaXaaaXfaayaXjabXbabm.X2hbaX1abadbjdXWbdlfbadabaXubcdgbadabcdaXodaXajadbhc",
   "jdkbl1eX1bdajedajbdajgdcjddfjzd1.jdkbj1faaXameXambX1gabfbhaaahcm2zaek2daek2rafkgdah1_dahadaX",
   "ddbXgdaXadaXddbX1gdahadaXddbX_dahadaXddbXgdaXadaXddbXgdahgdaXwdah_dahadaXddbXgdah1gdahsdbXbl",
   "bhXdcXzhfX2udaqbXfqbXakJvdikYdcX2qdhpgXmfaxgfaxiXaxwfiXtflXmfaXcfaXbflX2YdagbXjdfXjgfXodaxjd",
   "fX2xdatgX1jdajeX2fkjXYgbpaXlgdXlgdXagcX1jgbXegkX1jhbkdXzhfXjhakcXbh.gXhbXbh1_kaXYkbXkkfXjkfX",
   "nkbXopbwnx1qX2liaxaXbW1mibxaW1kjcmljfm1tlhXdl1xjcXojcX1sjirbWeX1ktbXcthmhX1ckdmasbpaueX3lg2x",
   "hgiXjopdsaxaralakbi4Waabdj2zafjvabXfabX1fabXfabXhaaXaaaXaaaXaaaX_abX1uaaXoaaXnabXfaaXsabXcaa",
   "XiaaX1oaadwaaffdefbgbhafghefajaXdogaafbXWaaXehhlcXkaabaccdbfdhckalancpaqasaxoXrabdgfahdiajoX",
   "1yabdagahofahbiajck1paadaidjakbqdX2Waidlf7ranfaaad3yaadafZd1tfbgkhliakklgpdras1eabdcWvXkauX4",
   "katfag4vajf2pahdhftabgbfahad2vabdlfbhjfhgkhajbkbgphaijjckdjjkalskalakdlxkapdaaldablXaal1caal",
   "aaaldaclaaakgablganf_aclxaalnaalghdiamajamblXfdjpf7.dF.fngfhgiejdi1ijcpejekzpbX.paXaw1bpctlp",
   "auhpasytdqotau1ohax1ohaxmicjakcjdifjbk3khgkbmeX1mhaXameXambX1vhbmgXahalnXalwhiXghaXghaXghaXg",
   "haXghaXghaXghaXghaX.jxhdjbhsjakjmgpbresetaucwkx1bXzdaX2ydlX6vdzXlddz1xacdcfadaaaX2tabfbXfabf",
   "2ZaafeX1haajasataX2ZaaXpaxdclewphtjbWiXazpfYabgaX1dalkagofXabgah1raofladg1oaav3wadg3cabg_aag",
   "6Dvdjw1.gKDfavhhjhkamiqusetmwcx14mdcXrdbfpdafldafcdafadiX1pk9ljtX.jblrjhmXjfpaqam2xkhXwhdiej",
   "bi3kjblaqblbmlpjlamcparatbpfqbtfubxeudwcWbXbxaXaxaXexcWuXcxbwapbmalej1lhawcXjkfX1xihX2ejarhX",
   "ljfXXkbqbt2tjkXajYkcX2nkaXkkdXbk_paX1wjiXnjbXjjbXdjXkdp2ckxXekwmjXflbXflbXfliXglaXglaX1ppdqb",
   "pbudwdX2pq1nkbXjkfXATdblXwkdX1qkdX1V.b6Hnabm1WfckbX3jh1fXgalXeaeXadyaaXeaaXaaaXbaaXbaaX3lapl",
   "axpXBmapx1.abX1vagXax.elaafagbxpfjhfXdacjgpbquabfbgjaaXsaaXdadXcaafaaaX4gabXaaaX2Zabf2ZacXfa",
   "bXfabXfabXcacXgaaXgajXcdaccalgaXzgaXsgaXbgaXogbXng1bX3WgeXcgdX1mgcXig2khbpbraXljawcXap1oX1nj",
   "4bXYjcX1qjoXXpdX_eapdeiXcsWeeX1kpeXZgaXag1dhdXnh1jX1febg1fe2pgbXjgfX1drdX1drdX1hphX1tpkXapkx",
   "aXoxaXgxaXbxaXkxaXoxaXgxaXbxcX1tWlX9wpiXvpjXhpxXfxaX1jxaXix2eXfgbXagaX1lgaXbgcXagbXagvkaXik1",
   "_phXip1pXsqaXbqeXeqzibkcXaizjeXaj1.X1xmdXbqbmpqbX1nqdhaXbheXhhaXchaXWhbtbXchdXihatgXihgX.k.p",
   ".X1gpdXlpiX1vkcXYkbXWkeXhkrpgXdplXgp2pX2ik1wX1sqmX1sqgXfq1hthXjtfX1fWcXYWhXbW6pX_kaX1jwaXcwb",
   "XbwpXcW1wXaWcy1hthX1jtvXzx1fXXwtXwuiX2nldXZlfxiXap2bkaxjXatbXymgXjmfX1umaXnmctawhX1gpiX2imdq",
   "apbwjmapeqaXtpkXrpaX1kparcy1ZXgqaXaqaXdqaXoqaXkqfX1WpeXjpfXaqcpaXhpbXbpbXvpaXgpaXbpaXepaXati",
   "pbXbpbXcpbXaqfXapeXgpbXgpcXepkXjWaXaWbXaWaX1fWaXjWaXaWbXaWaXdWaXjWaXbWhXbWYX2zrawaraXarataub",
   "wZX2hphXjp5fX1vpbXrptq1bX2epkXjpfXmrsX1xmauaxfXjmfXtWXXzqatbXoqdXpqgx5yX1Xt3dX2splXapgwbXawb",
   "XhwaXbwaXZwaXbwbXlwiXjw2fXhubX1nubXkuWX2hshX1tsbuwsatesmXpx1ypgXjy5vX1bWnXjWfXiraX1mraXnrjXY",
   "rcX.rbXvraXnr2iXgsaXbsaX1lscXasaXbsaXishXjsfXftaXbtaX1etaXbtaXftgXjt9vXytgXqyaX1iycXXyaW2uXa",
   "woX1rumXauRoi1jpaq3fX3cilpaXdiapkX6dq2IlX3cxmX11okayiuYyjX3SWWeXIgq6LyX1zW1MfXHylgX_paXjpdXb",
   "p2oxaXjxfXZpbXfpjX2fpjXjpaXgpaXupeXspDpX1zW6fX2Wt3eX2emfudXau1omiugXqm1.XarasbuawkXbwnX5Vmre",
   "tfuhXNsrFcw1iXaWiw8NgXdxaXgxaXbxaXbl8YsdxoXayYXcubXaynXduhXCls28dX3kpeXmpcXipgXjpbXhp3QXX7zW",
   "fXDtW2lX1nxbXwxiX3tx1XX7vejX1gebXaj5tekqbxuX2fh3zXtylXttlX2wgiXrigt4gX2ueaX2geaXbebXaebXbebX",
   "deaXleaXaeaXdeagbeaX2aeaXdebXheaXgeaXXeaXdeaXeeaXaecXgeaXArebhbX9bebibX1reKlqoXeqaXoq12pX_xf",
   "Xfy6uXgraXqrbXgraXbraXereX1Zy1aXay3pX1mucXnubXjudXbu9.X_xqX1zueXauEpX1jy6vX1kWdXaWE.XgxaXdxa",
   "XbxaXoxaX6epbXpp1iX2kraudXjrdXbrOqX2dt2lX1Yu6bXdmaXWmaXbmaXambXamaXjmaXdmaXamaXamfXamdXamaXa",
   "maXamaXcmaXbmaXambXamaXamaXamaXamaXamaXbmaXambXdmaXgmaXdmaXdmaXamaXjmaXqmeXcmaXemaXqm1tXbm8n",
   "X1ljdX3djlXolbXnlapaXolaXolvpjXkkbpcw_katalakklakalakblakclakclekhlakglakjlbmaucwilakalbkbla",
   "kjldkblakjlrraw1xXzlakblmX1bkilardXikgXblnXfs4zX1allpcqflap2flapbqtllp1elapeldpeqlpqlgphq1_l",
   "apalap5vlapdlbpaq1Zlbpdmgpeqxlrpar1ipar2vpelamplamclamalamalamalamclamflbmdlamalbmdlamllbpbq",
   "kl1pp2fljpaqbrbsaubwdXaycxmpcXdpcrbsataubwcX3tlcydXey2updtayfXludXaxoXlpdX1xphXjpfX1hphXZpbX",
   "bwjWdXbW1ZXlsawcuiqfrashrhsarbslraulrasctormsetauawdtbwaxataudteqmrfsktbwfucwbujtfuaqbthuawa",
   "xcuwsyt2tulXntbXduawcycubxcXcudwbyaWeXaWfuswdxcygwdxcyaWaycwcxaWgXbygwcxbyaWbXaWhxayaWfXgxby",
   "gX4swaX1ww1eWjw10dXbb19Mwegwbx.X41ukdxayfX6ZlbX5KbqnX79qsoXJnz2DbXGZe1E.Xbb4QkweX42.y1N2nXbb",
   "1VVZXbb1VVZXbb1VVZXbb1VVZXbb1VVZXbb1VVZXbb1VVZXbb1VVZXbb1VVZXbb1VVZXbbaXaeZX2.e3.X7pg1VGnX40",
   "0bb"]

/-- The code points with the numbers of their versions. -/
def classes : List (CodeRange × Nat) := Packed.partition table

/-- The characters of a version with a name and of those before it. -/
def named? (name : String) : Option Charset :=
  (names.findIdx? fun entry => entry.contains name).map fun number =>
    Packed.pick classes (· ≤ number)

end Stencil.Unicode.Age
